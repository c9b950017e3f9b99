import CallbackWeave.Proofs.Json.Lists

/-!
Values of no interest are passed over. What a value is written with is said by a grammar of its
own, and the walk over the parts of a text, which keeps the lists and objects that are open, leaves
each value behind without a look at what it means.
-/

namespace CallbackWeave.Json

/-! ## Numbers -/

/-- One decimal digit or more. -/
structure Digits where
  text : List Char
  nonempty : text ≠ []
  decimal : ∀ c ∈ text, c.isDigit = true

/-- The exponent of a number: a mark, a sign that may be left out, and digits. -/
structure Exponent where
  mark : Char
  mark_eq : mark = 'e' ∨ mark = 'E'
  sign : List Char
  sign_eq : sign = [] ∨ sign = ['+'] ∨ sign = ['-']
  digits : Digits

/-- A number in decimal. The whole part is zero or begins with another digit. -/
structure Numeral where
  negative : Bool
  whole : Digits
  unpadded : whole.text.head? = some '0' → whole.text = ['0']
  fraction : Option Digits
  exponent : Option Exponent

def Exponent.write (e : Exponent) : List Char := e.mark :: e.sign ++ e.digits.text

/-- What stands behind the whole part of a number. -/
def Numeral.scale (n : Numeral) : List Char :=
  (n.fraction.elim [] fun digits => '.' :: digits.text) ++ n.exponent.elim [] Exponent.write

def Numeral.write (n : Numeral) : List Char :=
  (if n.negative then ['-'] else []) ++ n.whole.text ++ n.scale

/-- A text in which no number goes on. -/
def Delimited (text : List Char) : Prop :=
  ∃ c rest, text = c :: rest ∧ (c = ',' ∨ c = ']' ∨ c = '}')

theorem Digits.exists_cons (d : Digits) :
    ∃ c more, d.text = c :: more ∧ c.isDigit = true := by
  obtain ⟨c, more, hText⟩ := List.exists_cons_of_ne_nil d.nonempty
  exact ⟨c, more, hText, d.decimal c (by simp [hText])⟩

/-- The scanner of digits stops behind them. -/
theorem Digits.dropWhile_append (d : Digits) {c : Char} (hOther : c.isDigit = false)
    (rest : List Char) : (d.text ++ c :: rest).dropWhile Char.isDigit = c :: rest := by
  rw [List.dropWhile_append_of_pos d.decimal]
  exact List.dropWhile_cons_of_neg (by simp [hOther])

theorem Delimited.exists_cons {text : List Char} (h : Delimited text) :
    ∃ c rest, text = c :: rest ∧ c.isDigit = false := by
  obtain ⟨c, rest, rfl, rfl | rfl | rfl⟩ := h <;> exact ⟨_, _, rfl, rfl⟩

/-- The sign of an exponent is taken off, if there is one. -/
theorem splitSign_append (e : Exponent) (rest : List Char) :
    (Number.splitSign (e.sign ++ (e.digits.text ++ rest))).2 = e.digits.text ++ rest := by
  obtain ⟨c, more, hText, hDigit⟩ := e.digits.exists_cons
  rw [hText]
  rcases e.sign_eq with hSign | hSign | hSign
  · have hMinus : c ≠ '-' := by rintro rfl; cases hDigit
    have hPlus : c ≠ '+' := by rintro rfl; cases hDigit
    simp [hSign, Number.splitSign, hMinus, hPlus]
  · rw [hSign]; rfl
  · rw [hSign]; rfl

/-- An exponent is passed, if no number goes on behind it. -/
theorem skipExponent_append (e : Exponent) {rest : List Char} (hRest : Delimited rest) :
    skipExponent (e.sign ++ (e.digits.text ++ rest)) = .ok rest := by
  obtain ⟨next, more, rfl, hOther⟩ := hRest.exists_cons
  obtain ⟨c, digits, hText, hDigit⟩ := e.digits.exists_cons
  have hDrop := e.digits.dropWhile_append hOther more
  rw [hText, List.cons_append, List.dropWhile_cons_of_pos hDigit] at hDrop
  rw [skipExponent, splitSign_append, hText]
  simp [hDigit, hDrop]

theorem skipScale_append (exponent : Option Exponent) {rest : List Char} (hRest : Delimited rest) :
    skipScale (exponent.elim [] Exponent.write ++ rest) = .ok rest := by
  cases exponent with
  | none => obtain ⟨c, more, rfl, rfl | rfl | rfl⟩ := hRest <;> rfl
  | some e =>
      have hExponent := skipExponent_append e hRest
      simp only [Option.elim_some, Exponent.write, List.append_assoc, List.cons_append]
      rcases e.mark_eq with hMark | hMark
      · rw [hMark]; exact hExponent
      · rw [hMark]; exact hExponent

/-- Neither a digit nor a point stands behind the digits that an exponent may follow. -/
theorem exists_exponent_cons (exponent : Option Exponent) {rest : List Char}
    (hRest : Delimited rest) :
    ∃ c more, exponent.elim [] Exponent.write ++ rest = c :: more ∧ c.isDigit = false ∧
      c ≠ '.' := by
  cases exponent with
  | none => obtain ⟨c, more, rfl, rfl | rfl | rfl⟩ := hRest <;> exact ⟨_, _, rfl, rfl, by decide⟩
  | some e =>
      refine ⟨e.mark, _, rfl, ?_⟩
      rcases e.mark_eq with hMark | hMark <;> rw [hMark] <;> exact ⟨rfl, by decide⟩

theorem Numeral.exists_scale_cons (n : Numeral) {rest : List Char} (hRest : Delimited rest) :
    ∃ c more, n.scale ++ rest = c :: more ∧ c.isDigit = false := by
  unfold Numeral.scale
  cases n.fraction with
  | some digits => exact ⟨'.', _, rfl, rfl⟩
  | none =>
      obtain ⟨c, more, hExponent, hOther, -⟩ := exists_exponent_cons n.exponent hRest
      exact ⟨c, more, hExponent, hOther⟩

/-- What follows the digits of a number, be it a fraction, an exponent, both or neither, is passed.
-/
theorem skipFraction_scale (n : Numeral) {rest : List Char} (hRest : Delimited rest) :
    skipFraction (n.scale ++ rest) = .ok rest := by
  have hScale := skipScale_append n.exponent hRest
  obtain ⟨c, more, hExponent, hOther, hPoint⟩ := exists_exponent_cons n.exponent hRest
  unfold Numeral.scale
  cases n.fraction with
  | none =>
      rw [Option.elim_none, List.nil_append, ← hScale, hExponent]
      simp [skipFraction, hPoint]
  | some digits =>
      obtain ⟨first, later, hText, hDigit⟩ := digits.exists_cons
      have hDrop := digits.dropWhile_append hOther more
      rw [hText, List.cons_append, List.dropWhile_cons_of_pos hDigit] at hDrop
      rw [Option.elim_some, List.append_assoc, hExponent, List.cons_append, hText, ← hScale,
        hExponent]
      simp [skipFraction, hDigit, hDrop]

/-- The scanner of numbers stops where a number ends. -/
theorem skipNumber_append (n : Numeral) {rest : List Char} (hRest : Delimited rest) :
    skipNumber (n.whole.text ++ (n.scale ++ rest)) = .ok rest := by
  have hFraction := skipFraction_scale n hRest
  obtain ⟨next, more, hScale, hOther⟩ := n.exists_scale_cons hRest
  obtain ⟨c, later, hText, hDigit⟩ := n.whole.exists_cons
  rw [hScale] at hFraction ⊢
  by_cases hZero : c = '0'
  · have hWhole := n.unpadded (by rw [hText, hZero]; rfl)
    rw [hWhole, ← hFraction]
    simp [skipNumber, hOther]
  · have hDrop := n.whole.dropWhile_append hOther more
    rw [hText, List.cons_append, List.dropWhile_cons_of_pos hDigit] at hDrop
    rw [hText, List.cons_append, ← hFraction]
    simp [skipNumber, hDigit, hDrop]

/-! ## Values of all kinds -/

/-- A value of any kind, as it is written. -/
inductive IsValue : List Char → Prop
  | null : IsValue ['n', 'u', 'l', 'l']
  | true : IsValue ['t', 'r', 'u', 'e']
  | false : IsValue ['f', 'a', 'l', 's', 'e']
  | number (n : Numeral) : IsValue n.write
  | text (s : String) : IsValue (writeString s)
  | list {texts : List (List Char)} (elements : ∀ text ∈ texts, IsValue text) :
      IsValue (writeList texts)
  | object {members : List (String × List Char)} (values : ∀ m ∈ members, IsValue m.2) :
      IsValue (writeObject members)

theorem isSpace_of_isDigit {c : Char} (hDigit : c.isDigit = true) : isSpace c = false := by
  by_contra hSpace
  simp only [isSpace, Bool.not_eq_false, Bool.or_eq_true, decide_eq_true_eq] at hSpace
  rcases hSpace with ((rfl | rfl) | rfl) | rfl <;> cases hDigit

theorem begins_number (n : Numeral) : Begins n.write := by
  obtain ⟨c, later, hText, hDigit⟩ := n.whole.exists_cons
  unfold Numeral.write
  cases n.negative with
  | true => exact ⟨'-', _, rfl, rfl, by decide⟩
  | false =>
      refine ⟨c, later ++ n.scale, by simp [hText], isSpace_of_isDigit hDigit, ?_⟩
      rintro rfl
      cases hDigit

/-- A value begins with a character that is no space and does not close a list. -/
theorem IsValue.begins {text : List Char} (h : IsValue text) : Begins text := by
  cases h with
  | null => exact ⟨_, _, rfl, rfl, by decide⟩
  | true => exact ⟨_, _, rfl, rfl, by decide⟩
  | false => exact ⟨_, _, rfl, rfl, by decide⟩
  | number n => exact begins_number n
  | text s => exact begins_writeString s
  | list => exact begins_writeList _
  | object => exact begins_writeObject _

/-! ## The walk over the parts of a text -/

/-- The end of a list or an object. -/
def Frame.close : Frame → Char
  | .list => ']'
  | .object => '}'

/-- Where a walk stands: the lists and objects that are open, whether a value has just ended, and the
text that is left. -/
structure Place where
  frames : List Frame
  done : Bool
  left : List Char

/-- One step of a walk: over a value that holds no other, into a list or an object, on to its next
value, or out of it. -/
inductive Place.Step : Place → Place → Prop
  | null (frames : List Frame) (rest : List Char) :
      Step ⟨frames, false, 'n' :: 'u' :: 'l' :: 'l' :: rest⟩ ⟨frames, true, rest⟩
  | true (frames : List Frame) (rest : List Char) :
      Step ⟨frames, false, 't' :: 'r' :: 'u' :: 'e' :: rest⟩ ⟨frames, true, rest⟩
  | false (frames : List Frame) (rest : List Char) :
      Step ⟨frames, false, 'f' :: 'a' :: 'l' :: 's' :: 'e' :: rest⟩ ⟨frames, true, rest⟩
  | number (n : Numeral) (frames : List Frame) {rest : List Char} (ended : Delimited rest) :
      Step ⟨frames, false, n.write ++ rest⟩ ⟨frames, true, rest⟩
  | text (s : String) (frames : List Frame) (rest : List Char) :
      Step ⟨frames, false, writeString s ++ rest⟩ ⟨frames, true, rest⟩
  | noElement (frames : List Frame) (rest : List Char) :
      Step ⟨frames, false, '[' :: ']' :: rest⟩ ⟨frames, true, rest⟩
  | noMember (frames : List Frame) (rest : List Char) :
      Step ⟨frames, false, '{' :: '}' :: rest⟩ ⟨frames, true, rest⟩
  | firstElement {text : List Char} (begins : Begins text) (frames : List Frame) :
      Step ⟨frames, false, '[' :: text⟩ ⟨.list :: frames, false, text⟩
  | firstMember (m : String × List Char) (frames : List Frame) (rest : List Char) :
      Step ⟨frames, false, '{' :: (member m ++ rest)⟩ ⟨.object :: frames, false, m.2 ++ rest⟩
  | nextElement (frames : List Frame) (text : List Char) :
      Step ⟨.list :: frames, true, ',' :: text⟩ ⟨.list :: frames, false, text⟩
  | nextMember (m : String × List Char) (frames : List Frame) (rest : List Char) :
      Step ⟨.object :: frames, true, ',' :: (member m ++ rest)⟩
        ⟨.object :: frames, false, m.2 ++ rest⟩
  | close (frame : Frame) (frames : List Frame) (rest : List Char) :
      Step ⟨frame :: frames, true, frame.close :: rest⟩ ⟨frames, true, rest⟩

/-- A number of steps one after another. -/
inductive Place.Walk : Nat → Place → Place → Prop
  | here (p : Place) : Walk 0 p p
  | step {n : Nat} {p q r : Place} (first : Step p q) (later : Walk n q r) : Walk (n + 1) p r

/-- Walks that meet are one walk, with the steps of both. -/
theorem Place.Walk.append {n m : Nat} {p q r : Place} (hFirst : Walk n p q) (hLater : Walk m q r) :
    Walk (n + m) p r := by
  induction hFirst with
  | here => rwa [Nat.zero_add]
  | step hStep _ ih =>
      rw [Nat.add_right_comm]
      exact .step hStep (ih hLater)

/-- The key of a member is passed with the colon behind it. -/
theorem skipKey_member (m : String × List Char) (rest : List Char) :
    skipKey (member m ++ rest) = .ok (m.2 ++ rest) := by
  have hString := skipString_written m.1 (':' :: (m.2 ++ rest))
  simp [member, writeString, skipKey, skipSpace_of_not_isSpace (c := '"') rfl, hString,
    readColon_colon]

theorem skipParts_digit {c : Char} (hDigit : c.isDigit = true) (fuel : Nat) (frames : List Frame)
    (rest : List Char) : skipParts (fuel + 1) frames false (c :: rest) = (do
      skipParts fuel frames true (← skipNumber (c :: rest))) := by
  rw [skipParts, skipSpace_of_not_isSpace (isSpace_of_isDigit hDigit)]
  split <;> rename_i hFront <;> cases hFront
  case h_9 => rw [if_pos hDigit]
  -- No digit is one of the characters that other values begin with.
  all_goals cases hDigit

/-- The scanner of values takes each step that a walk can take. -/
theorem skipParts_step {p q : Place} (hStep : p.Step q) (fuel : Nat) :
    skipParts (fuel + 1) p.frames p.done p.left = skipParts fuel q.frames q.done q.left := by
  cases hStep with
  | null => simp [skipParts, skipSpace_of_not_isSpace (c := 'n') rfl, readLiteral]
  | true => simp [skipParts, skipSpace_of_not_isSpace (c := 't') rfl, readLiteral]
  | false => simp [skipParts, skipSpace_of_not_isSpace (c := 'f') rfl, readLiteral]
  | number n frames hRest =>
      have hNumber := skipNumber_append n hRest
      obtain ⟨c, later, hText, hDigit⟩ := n.whole.exists_cons
      unfold Numeral.write
      cases n.negative with
      | true => simp [skipParts, skipSpace_of_not_isSpace (c := '-') rfl, hNumber]
      | false =>
          rw [if_neg Bool.false_ne_true, List.nil_append, List.append_assoc]
          rw [hText, List.cons_append] at hNumber ⊢
          rw [skipParts_digit hDigit, hNumber, ok_bind]
  | text s =>
      simp [writeString, skipParts, skipSpace_of_not_isSpace (c := '"') rfl, skipString_written]
  | noElement => simp [skipParts, skipSpace, isSpace]
  | noMember => simp [skipParts, skipSpace, isSpace]
  | firstElement hBegins frames =>
      obtain ⟨c, more, rfl, hPart, hOpen⟩ := hBegins
      rw [skipParts, skipSpace_of_not_isSpace rfl]
      simp only [skipSpace_of_not_isSpace hPart]
      split
      next hEmpty => cases hEmpty
      next hEnd => exact absurd (List.cons.inj hEnd).1 hOpen
      next => rfl
  | firstMember m frames rest =>
      have hFront : skipSpace (member m ++ rest) = member m ++ rest :=
        skipSpace_of_not_isSpace rfl _
      have hKey : skipParts (fuel + 1) frames false ('{' :: (member m ++ rest)) = (do
          skipParts fuel (.object :: frames) false (← skipKey (member m ++ rest))) := by
        rw [skipParts, skipSpace_of_not_isSpace rfl]
        simp only [hFront]
        rfl
      rw [hKey, skipKey_member, ok_bind]
  | nextElement => simp [skipParts, skipSpace_of_not_isSpace (c := ',') rfl]
  | nextMember => simp [skipParts, skipSpace_of_not_isSpace (c := ',') rfl, skipKey_member]
  | close frame => cases frame <;> simp [Frame.close, skipParts, skipSpace, isSpace]

/-- The scanner gets along a walk in as many rounds as it has steps. -/
theorem skipParts_walk {n : Nat} {p q : Place} (hWalk : Place.Walk n p q) (fuel : Nat) :
    skipParts (fuel + n) p.frames p.done p.left = skipParts fuel q.frames q.done q.left := by
  induction hWalk with
  | here => rfl
  | step hStep _ ih => exact (skipParts_step hStep _).trans ih

/-! ## Values in a walk -/

/-- A walk passes over a text as over a value, whatever it stands in. -/
def Passes (text : List Char) : Prop :=
  ∃ n ≤ text.length, ∀ frames rest, Delimited rest →
    Place.Walk n ⟨frames, false, text ++ rest⟩ ⟨frames, true, rest⟩

/-- A walk passes over a text behind a value in a list or an object, up to what comes next. -/
def PassesBehind (frame : Frame) (text : List Char) : Prop :=
  ∃ n ≤ text.length, ∀ frames rest, Delimited rest →
    Place.Walk n ⟨frame :: frames, true, text ++ rest⟩ ⟨frame :: frames, true, rest⟩

/-- A value that is passed over in a single step. -/
theorem passes_of_step {text : List Char} (hBegins : Begins text)
    (hStep : ∀ frames rest, Delimited rest →
      Place.Step ⟨frames, false, text ++ rest⟩ ⟨frames, true, rest⟩) : Passes text :=
  ⟨1, List.length_pos_iff.mpr hBegins.ne_nil, fun frames rest hRest =>
    .step (hStep frames rest hRest) (.here _)⟩

theorem delimited_joined (texts : List (List Char)) (frame : Frame) (rest : List Char) :
    Delimited (joined false texts ++ frame.close :: rest) := by
  cases texts with
  | nil => cases frame <;> exact ⟨_, _, rfl, by simp [Frame.close]⟩
  | cons text texts => exact ⟨',', _, rfl, .inl rfl⟩

/-- The elements that follow the first one are passed one after another, with no more steps than
characters. -/
theorem passesBehind_joined {frame : Frame} {texts : List (List Char)}
    (hTexts : ∀ text ∈ texts, PassesBehind frame (lead false text)) :
    ∃ n ≤ (joined false texts).length, ∀ frames rest,
      Place.Walk n ⟨frame :: frames, true, joined false texts ++ frame.close :: rest⟩
        ⟨frame :: frames, true, frame.close :: rest⟩ := by
  induction texts with
  | nil => exact ⟨0, Nat.le_refl 0, fun _ _ => .here _⟩
  | cons text texts ih =>
      rw [List.forall_mem_cons] at hTexts
      obtain ⟨n, hLength, hText⟩ := hTexts.1
      obtain ⟨m, hLater, hMore⟩ := ih hTexts.2
      refine ⟨n + m, by rw [joined, List.length_append]; omega, fun frames rest => ?_⟩
      rw [joined, List.append_assoc]
      exact (hText _ _ (delimited_joined texts frame rest)).append (hMore frames rest)

/-- From the first value of a list or an object on, all is passed over with its end. -/
theorem walk_body {frame : Frame} {value : List Char} {texts : List (List Char)}
    (hValue : Passes value) (hTexts : ∀ text ∈ texts, PassesBehind frame (lead false text)) :
    ∃ n ≤ value.length + (joined false texts).length + 1, ∀ frames rest,
      Place.Walk n ⟨frame :: frames, false, value ++ (joined false texts ++ frame.close :: rest)⟩
        ⟨frames, true, rest⟩ := by
  obtain ⟨n, hFirst, hText⟩ := hValue
  obtain ⟨m, hLater, hMore⟩ := passesBehind_joined hTexts
  refine ⟨n + (m + 1), by omega, fun frames rest => ?_⟩
  have hEnd := Place.Walk.step (.close frame frames rest) (.here _)
  exact (hText _ _ (delimited_joined texts frame rest)).append ((hMore frames rest).append hEnd)

theorem Passes.behind_list {text : List Char} (h : Passes text) :
    PassesBehind .list (lead false text) := by
  obtain ⟨n, hLength, hText⟩ := h
  refine ⟨n + 1, Nat.succ_le_succ hLength, fun frames rest hRest => ?_⟩
  exact .step (.nextElement frames _) (hText _ _ hRest)

theorem Passes.behind_object {m : String × List Char} (h : Passes m.2) :
    PassesBehind .object (lead false (member m)) := by
  obtain ⟨n, hLength, hText⟩ := h
  refine ⟨n + 1, by simp [lead, member]; omega, fun frames rest hRest => ?_⟩
  exact .step (.nextMember m frames rest) (hText _ _ hRest)

/-- A list is passed if its elements are. -/
theorem passes_writeList {texts : List (List Char)} (hBegins : ∀ text ∈ texts, Begins text)
    (hTexts : ∀ text ∈ texts, Passes text) : Passes (writeList texts) := by
  cases texts with
  | nil => exact passes_of_step (begins_writeList []) fun frames rest _ => .noElement frames rest
  | cons text texts =>
      rw [List.forall_mem_cons] at hTexts
      obtain ⟨n, hLength, hBody⟩ :=
        walk_body hTexts.1 fun text hMem => (hTexts.2 text hMem).behind_list
      have hText : writeList (text :: texts) = '[' :: (text ++ (joined false texts ++ [']'])) := by
        rw [writeList_eq]
        simp [joined, lead]
      refine ⟨n + 1, by rw [hText]; simp; omega, fun frames rest hRest => ?_⟩
      have hFirst : Begins (text ++ (joined false texts ++ [']'] ++ rest)) := by
        obtain ⟨c, more, rfl, hPart⟩ := hBegins text List.mem_cons_self
        exact ⟨c, _, rfl, hPart⟩
      have hRest := hBody frames rest
      rw [hText, List.cons_append, List.append_assoc]
      refine .step (.firstElement hFirst frames) ?_
      simpa [Frame.close] using hRest

/-- An object is passed if the values of its members are, whatever the keys. -/
theorem passes_writeObject {members : List (String × List Char)}
    (hMembers : ∀ m ∈ members, Passes m.2) : Passes (writeObject members) := by
  cases members with
  | nil => exact passes_of_step (begins_writeObject []) fun frames rest _ => .noMember frames rest
  | cons m members =>
      rw [List.forall_mem_cons] at hMembers
      have hLater : ∀ text ∈ members.map member, PassesBehind .object (lead false text) := by
        intro text hMem
        obtain ⟨other, hOther, rfl⟩ := List.mem_map.mp hMem
        exact (hMembers.2 other hOther).behind_object
      obtain ⟨n, hLength, hBody⟩ := walk_body hMembers.1 hLater
      have hText : writeObject (m :: members) =
          '{' :: (member m ++ (joined false (members.map member) ++ ['}'])) := by
        rw [writeObject_eq]
        simp [joined, lead]
      refine ⟨n + 1, by rw [hText]; simp [member]; omega, fun frames rest hRest => ?_⟩
      have hRest := hBody frames rest
      rw [hText, List.cons_append, List.append_assoc]
      refine .step (.firstMember m frames _) ?_
      simpa [Frame.close] using hRest

/-- Whatever a value is, it is passed over and nothing after it. -/
theorem IsValue.passes {text : List Char} (h : IsValue text) : Passes text := by
  have hBegins := h.begins
  induction h with
  | null => exact passes_of_step hBegins fun frames rest _ => .null frames rest
  | true => exact passes_of_step hBegins fun frames rest _ => .true frames rest
  | false => exact passes_of_step hBegins fun frames rest _ => .false frames rest
  | number n => exact passes_of_step hBegins fun frames rest hRest => .number n frames hRest
  | text s => exact passes_of_step hBegins fun frames rest _ => .text s frames rest
  | list hElements ih =>
      have hFirst := fun text hMem => (hElements text hMem).begins
      exact passes_writeList hFirst fun text hMem => ih text hMem (hFirst text hMem)
  | object hValues ih =>
      exact passes_writeObject fun m hMem => ih m hMem (hValues m hMem).begins

/-- Any value is passed, up to the comma or the bracket behind it. -/
theorem skipValue_append {text : List Char} (hValue : IsValue text) {rest : List Char}
    (hRest : Delimited rest) : skipValue (text ++ rest) = .ok rest := by
  obtain ⟨n, hLength, hWalk⟩ := hValue.passes
  -- A value has no more parts than characters, so that one unit of fuel is left for the end.
  obtain ⟨fuel, hFuel⟩ : ∃ fuel, 2 * (text ++ rest).length + 2 = fuel + 1 + n := by
    refine ⟨2 * (text ++ rest).length + 1 - n, ?_⟩
    rw [List.length_append]
    omega
  rw [skipValue, hFuel]
  exact skipParts_walk (hWalk [] rest hRest) (fuel + 1)

end CallbackWeave.Json

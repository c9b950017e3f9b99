import CallbackWeave.Proofs.Json.Strings

/-!
Lists and objects are read back as they were written, whatever their parts are. A part is a text
with which its reader ends just where it ends; what separates two parts is said by `joined`.
-/

namespace CallbackWeave.Json

/-- A part as it stands behind the parts before it, if there are any. -/
def lead (first : Bool) (text : List Char) : List Char := if first then text else ',' :: text

/-- Parts as they stand one after another; `first` says that none stands before them. -/
def joined : Bool → List (List Char) → List Char
  | _, [] => []
  | first, text :: texts => lead first text ++ joined false texts

theorem intercalate_eq_joined (texts : List (List Char)) :
    List.intercalate [','] texts = joined true texts := by
  have hLater : ∀ text texts,
      List.intercalate [','] (text :: texts) = text ++ joined false texts := by
    intro text texts
    induction texts generalizing text with
    | nil => simp [joined]
    | cons next texts ih => simp [joined, lead, ih, List.intercalate_cons_cons]
  cases texts with
  | nil => rfl
  | cons text texts => exact hLater text texts

/-- Texts that are not empty are no more than the characters of their list, which bounds the steps
of its reader. -/
theorem length_le_joined {texts : List (List Char)} (hTexts : ∀ text ∈ texts, text ≠ [])
    (first : Bool) : texts.length ≤ (joined first texts).length := by
  induction texts generalizing first with
  | nil => simp
  | cons text texts ih =>
      have hText := List.length_pos_iff.mpr (hTexts text List.mem_cons_self)
      have hLater := ih (fun t ht => hTexts t (List.mem_cons_of_mem _ ht)) false
      have hLead : text.length ≤ (lead first text).length := by
        cases first <;> simp [lead]
      rw [joined, List.length_append, List.length_cons]
      omega

/-- A list as it is written is opened, joined and closed. -/
theorem writeList_eq (texts : List (List Char)) :
    writeList texts = '[' :: (joined true texts ++ [']']) := by
  rw [← intercalate_eq_joined]
  rfl

/-- The first part of a value begins here, and no end of a list. -/
def Begins (text : List Char) : Prop :=
  ∃ c rest, text = c :: rest ∧ isSpace c = false ∧ c ≠ ']'

theorem begins_writeString (s : String) : Begins (writeString s) :=
  ⟨'"', _, rfl, rfl, by decide⟩

theorem begins_writeList (texts : List (List Char)) : Begins (writeList texts) :=
  ⟨'[', _, rfl, rfl, by decide⟩

theorem begins_writeObject (members : List (String × List Char)) : Begins (writeObject members) :=
  ⟨'{', _, rfl, rfl, by decide⟩

theorem Begins.ne_nil {text : List Char} (h : Begins text) : text ≠ [] := by
  obtain ⟨c, rest, rfl, -⟩ := h
  simp

variable {α : Type}

/-- A reader takes a text off the front of every longer one and gives a value for it. -/
structure Reads (reader : Reader α) (text : List Char) (value : α) : Prop where
  begins : Begins text
  read : ∀ rest, reader (text ++ rest) = .ok (value, rest)

/-- The reader of texts takes a text as it is written, inside any longer one. -/
theorem reads_readText (expected s : String) : Reads (readText expected) (writeString s) s :=
  ⟨begins_writeString s, readText_writeString expected s⟩

/-! ## Lists -/

/-- One step of the reader of elements takes one element, with the comma before it if it is not the
first. -/
theorem readElements_lead {reader : Reader α} {text : List Char} {value : α}
    (hReads : Reads reader text value) (fuel : Nat) (first : Bool) (rest : List Char) :
    readElements reader (fuel + 1) first (lead first text ++ rest) =
      (readElements reader fuel false rest).map fun taken => (value :: taken.1, taken.2) := by
  obtain ⟨c, more, rfl, hPart, hOpen⟩ := hReads.begins
  have hRead := hReads.read rest
  rw [List.cons_append] at hRead
  have hFront : skipSpace (c :: (more ++ rest)) = c :: (more ++ rest) :=
    skipSpace_of_not_isSpace hPart _
  have hStep : readElements reader (fuel + 1) first (lead first (c :: more) ++ rest) = (do
      let taken ← readElements reader fuel false rest
      return (value :: taken.1, taken.2)) := by
    cases first with
    | true => simp [lead, readElements, hFront, hRead]
    | false =>
        simp only [lead, Bool.false_eq_true, ↓reduceIte, List.cons_append, readElements,
          skipSpace_of_not_isSpace (c := ',') rfl, Char.reduceEq, imp_self, hFront]
        split
        next hEmpty => cases hEmpty
        next hEnd => exact absurd (List.cons.inj hEnd).1 hOpen
        next => simp [hRead]
  rw [hStep]
  cases readElements reader fuel false rest <;> rfl

/-- The elements of a list are read one after another, up to the bracket that closes it. -/
theorem readElements_joined {reader : Reader α} {texts : List (List Char)} {values : List α}
    (hReads : List.Forall₂ (Reads reader) texts values) (first : Bool) {fuel : Nat}
    (hFuel : texts.length < fuel) (rest : List Char) :
    readElements reader fuel first (joined first texts ++ ']' :: rest) = .ok (values, rest) := by
  induction hReads generalizing first fuel with
  | nil =>
      obtain ⟨fuel, rfl⟩ := Nat.exists_eq_add_of_lt hFuel
      simp [joined, readElements, skipSpace_of_not_isSpace (c := ']') rfl]
  | @cons text value texts values hText hTexts ih =>
      obtain ⟨left, rfl⟩ := Nat.exists_eq_add_of_lt hFuel
      rw [joined, List.append_assoc, readElements_lead hText, ih false (by simp; omega)]
      rfl

/-- A reader of elements gives one of lists. -/
theorem Reads.list {reader : Reader α} {texts : List (List Char)} {values : List α}
    (hReads : List.Forall₂ (Reads reader) texts values) :
    Reads (readList reader) (writeList texts) values := by
  refine ⟨begins_writeList texts, fun rest => ?_⟩
  have hOpen : writeList texts ++ rest = '[' :: (joined true texts ++ ']' :: rest) := by
    simp [writeList_eq]
  have hNonempty : ∀ text ∈ texts, text ≠ [] := by
    clear hOpen
    induction hReads with
    | nil => simp
    | cons hText _ ih => exact List.forall_mem_cons.mpr ⟨hText.begins.ne_nil, ih⟩
  have hPlace := length_le_joined hNonempty true
  rw [readList, hOpen, skipSpace_of_not_isSpace rfl]
  exact readElements_joined hReads true (by rw [List.length_append]; omega) rest

/-- A value that may be null is read as any other, if it is not written as null is. -/
theorem Reads.optional {reader : Reader α} {text : List Char} {value : α}
    (hReads : Reads reader text value) (hFront : text.head? ≠ some 'n') :
    Reads (readOptional reader) text (some value) := by
  refine ⟨hReads.begins, fun rest => ?_⟩
  obtain ⟨c, more, rfl, hPart, -⟩ := hReads.begins
  have hOther : c ≠ 'n' := by simpa using hFront
  rw [readOptional, List.cons_append, skipSpace_of_not_isSpace hPart, ← List.cons_append]
  split
  next hNull => exact absurd (List.cons.inj hNull).1 hOther
  next => rw [hReads.read]; rfl

/-- A text that one reader takes whole is all that it holds. -/
theorem readAll_of_reads {reader : Reader α} {text : List Char} {value : α}
    (hReads : Reads reader text value) : readAll reader text = .ok value := by
  have hRead := hReads.read []
  rw [List.append_nil] at hRead
  simp [readAll, hRead, skipSpace, Pure.pure, Except.pure]

/-! ## Objects -/

/-- A member as it stands in an object. -/
def member (m : String × List Char) : List Char := writeString m.1 ++ ':' :: m.2

/-- An object as it is written is a list of its members in braces. -/
theorem writeObject_eq (members : List (String × List Char)) :
    writeObject members = '{' :: (joined true (members.map member) ++ ['}']) := by
  rw [← intercalate_eq_joined]
  rfl

theorem readColon_colon (rest : List Char) : readColon (':' :: rest) = .ok rest := by
  simp [readColon, skipSpace_of_not_isSpace (c := ':') rfl]

/-- The key of a member is taken, and its value is left behind a colon. -/
theorem readKey_member (first : Bool) (m : String × List Char) (rest : List Char) :
    readKey first (lead first (member m) ++ rest) = .ok (some m.1, ':' :: (m.2 ++ rest)) := by
  have hString := readString_written m.1 (':' :: (m.2 ++ rest))
  cases first with
  | true =>
      simp [lead, member, writeString, readKey, skipSpace_of_not_isSpace (c := '"') rfl, hString,
        Except.map]
  | false =>
      simp [lead, member, writeString, readKey, skipSpace_of_not_isSpace (c := ',') rfl,
        skipSpace_of_not_isSpace (c := '"') rfl, hString, Except.map]

end CallbackWeave.Json

import CallbackWeave.Proofs.Text.Utf8

/-!
Bytes that need not be UTF-8, read as text. What becomes of the bytes between the characters is said
here by what characters are written with, and not by the reader: they fall into stretches, each as
long as a character could have begun with it, and for each of them there is one replacement
character. The main statement says that bytes are read as one text only, and which one.
-/

namespace CallbackWeave.Utf8

/-- The first bytes of a character, or all of them. -/
def Begins (stretch : Bytes) : Prop := ∃ c : Char, stretch <+: String.utf8EncodeChar c

/-- A stretch of bytes that is replaced where other bytes follow it. Only a single byte may be one
with which no character begins. -/
structure Broken (stretch rest : Bytes) : Prop where
  ne_nil : stretch ≠ []
  begins : stretch.length ≠ 1 → Begins stretch
  longest : ∀ b ∈ rest.head?, ¬ Begins (stretch ++ [b])
  no_character : ∀ c, ¬ String.utf8EncodeChar c <+: stretch ++ rest

/-- The text as which bytes are read. -/
inductive Decodes : Bytes → List Char → Prop
  | nil : Decodes [] []
  | character (c : Char) {rest : Bytes} {text : List Char} (hRest : Decodes rest text) :
      Decodes (String.utf8EncodeChar c ++ rest) (c :: text)
  | replaced {stretch rest : Bytes} {text : List Char} (hBroken : Broken stretch rest)
      (hRest : Decodes rest text) : Decodes (stretch ++ rest) ('\uFFFD' :: text)

theorem isContinuation_zero : isContinuation 0x80 = true := by decide

section Beginnings

variable {lead b c d : UInt8} {more : Bytes} {point : Nat}

/-- A stretch begins a character just if more bytes behind it give one of the forms in which
characters are written. -/
theorem begins_iff {front : Bytes} :
    Begins (lead :: front) ↔ ∃ more point, Form lead (front ++ more) point := by
  constructor
  · rintro ⟨c, more, hBytes⟩
    obtain ⟨first, tail, hForm, hChar⟩ := exists_form_encodeChar c
    rw [hChar, List.cons_append, List.cons.injEq] at hBytes
    obtain ⟨rfl, rfl⟩ := hBytes
    exact ⟨more, c.toNat, hForm⟩
  · rintro ⟨more, point, hForm⟩
    exact ⟨Char.ofNat point, more, hForm.encodeChar_eq.symm⟩

/-- A character of several bytes has a leading byte within these bounds. -/
theorem Form.lead_bounds (hForm : Form lead (b :: more) point) :
    0xC2 ≤ lead.toNat ∧ lead.toNat ≤ 0xF4 := by
  cases hForm with
  | two hLead => omega
  | three hLead => omega
  | four hLead => omega

/-- The byte after the leading one, by the number of bytes. -/
theorem Form.second (hForm : Form lead (b :: more) point) :
    (lead.toNat ≤ 0xDF → isContinuation b = true) ∧
    (0xE0 ≤ lead.toNat → lead.toNat ≤ 0xEF → secondOfThree lead b = true) ∧
    (0xF0 ≤ lead.toNat → secondOfFour lead b = true) := by
  cases hForm with
  | two hLead hSecond => exact ⟨fun _ => hSecond, by omega, by omega⟩
  | three hLead hSecond => exact ⟨by omega, fun _ _ => hSecond, by omega⟩
  | four hLead hSecond => exact ⟨by omega, by omega, fun _ => hSecond⟩

/-- Any third byte is a continuation, as is any fourth one; only the second is held to closer
bounds. -/
theorem Form.third (hForm : Form lead (b :: c :: more) point) : isContinuation c = true := by
  cases hForm with
  | three _ _ hThird => exact hThird
  | four _ _ hThird _ => exact hThird

theorem Form.fourth (hForm : Form lead (b :: c :: d :: more) point) : isContinuation d = true := by
  cases hForm with
  | four _ _ _ hFourth => exact hFourth

end Beginnings

/-- What is left of bytes once a stretch is cut off with which a character could have begun, and
could not with more of them. The leading byte is cut off in any case. -/
def Cut (lead : UInt8) (rest left : Bytes) : Prop :=
  ∃ tail, rest = tail ++ left ∧ (tail ≠ [] → Begins (lead :: tail)) ∧
    ∀ b ∈ left.head?, ¬ Begins (lead :: tail ++ [b])

section Fronts

variable {lead : UInt8} {rest left : Bytes}

/-- Where the reader replaces bytes, they do not go on with a whole character. -/
theorem no_character_of_front (hFront : front lead rest = (none, left)) (c : Char) :
    ¬ String.utf8EncodeChar c <+: lead :: rest := by
  rintro ⟨more, hBytes⟩
  obtain ⟨first, tail, hForm, hChar⟩ := exists_form_encodeChar c
  rw [hChar, List.cons_append, List.cons.injEq] at hBytes
  obtain ⟨rfl, rfl⟩ := hBytes
  rw [hForm.front_eq] at hFront
  cases hFront

/-- Bytes that end within a character are cut off as a whole. -/
theorem cut_end {tail : Bytes} (hTail : tail ≠ [] → Begins (lead :: tail)) : Cut lead tail [] :=
  ⟨tail, by simp, hTail, by simp⟩

/-- A stretch is cut off before the first byte that fits no form. -/
theorem cut_before (tail : Bytes) {others : Bytes} {b : UInt8}
    (hTail : tail ≠ [] → Begins (lead :: tail))
    (hNone : ∀ {more point}, ¬ Form lead (tail ++ b :: more) point) :
    Cut lead (tail ++ b :: others) (b :: others) := by
  refine ⟨tail, rfl, hTail, fun first hFirst => ?_⟩
  obtain rfl : b = first := by simpa using hFirst
  rw [List.cons_append, begins_iff]
  rintro ⟨more, point, hForm⟩
  rw [List.append_assoc, List.singleton_append] at hForm
  exact hNone hForm

/-- The case of a leading byte for two bytes, which is cut off alone. -/
theorem cut_of_front_two (hLead : 0xC2 ≤ lead.toNat ∧ lead.toNat ≤ 0xDF)
    (hFront : front lead rest = (none, left)) : Cut lead rest left := by
  unfold front at hFront
  simp only [between_iff, UInt8.lt_iff_toNat_lt, UInt8.reduceToNat] at hFront
  rw [if_neg (by omega), if_pos hLead] at hFront
  split at hFront
  next b others =>
    split_ifs at hFront with hSecond
    · cases hFront
    · obtain rfl := (Prod.mk.inj hFront).2
      exact cut_before [] (by simp) fun hForm => hSecond (hForm.second.1 hLead.2)
  next =>
    obtain rfl := (Prod.mk.inj hFront).2
    exact cut_end (by simp)

/-- The case of a leading byte for three bytes, with which one byte more may be cut off. -/
theorem cut_of_front_three (hLead : 0xE0 ≤ lead.toNat ∧ lead.toNat ≤ 0xEF)
    (hFront : front lead rest = (none, left)) : Cut lead rest left := by
  unfold front at hFront
  simp only [between_iff, UInt8.lt_iff_toNat_lt, UInt8.reduceToNat] at hFront
  rw [if_neg (by omega), if_neg (by omega), if_pos hLead] at hFront
  split at hFront
  next b others =>
    split_ifs at hFront with hSecond
    · have hTwo : Begins [lead, b] :=
        begins_iff.mpr ⟨_, _, .three hLead hSecond isContinuation_zero⟩
      split at hFront
      next c others₂ =>
        split_ifs at hFront with hThird
        · cases hFront
        · obtain rfl := (Prod.mk.inj hFront).2
          exact cut_before [b] (fun _ => hTwo) fun hForm => hThird hForm.third
      next =>
        obtain rfl := (Prod.mk.inj hFront).2
        exact cut_end fun _ => hTwo
    · obtain rfl := (Prod.mk.inj hFront).2
      exact cut_before [] (by simp) fun hForm => hSecond (hForm.second.2.1 hLead.1 hLead.2)
  next =>
    obtain rfl := (Prod.mk.inj hFront).2
    exact cut_end (by simp)

/-- The case of a leading byte for four bytes, with which two bytes more may be cut off. -/
theorem cut_of_front_four (hLead : 0xF0 ≤ lead.toNat ∧ lead.toNat ≤ 0xF4)
    (hFront : front lead rest = (none, left)) : Cut lead rest left := by
  unfold front at hFront
  simp only [between_iff, UInt8.lt_iff_toNat_lt, UInt8.reduceToNat] at hFront
  rw [if_neg (by omega), if_neg (by omega), if_neg (by omega), if_pos hLead] at hFront
  split at hFront
  next b others =>
    split_ifs at hFront with hSecond
    · have hTwo : Begins [lead, b] :=
        begins_iff.mpr ⟨_, _, .four hLead hSecond isContinuation_zero isContinuation_zero⟩
      split at hFront
      next c others₂ =>
        split_ifs at hFront with hThird
        · have hThree : Begins [lead, b, c] :=
            begins_iff.mpr ⟨_, _, .four hLead hSecond hThird isContinuation_zero⟩
          split at hFront
          next d others₃ =>
            split_ifs at hFront with hFourth
            · cases hFront
            · obtain rfl := (Prod.mk.inj hFront).2
              exact cut_before [b, c] (fun _ => hThree) fun hForm => hFourth hForm.fourth
          next =>
            obtain rfl := (Prod.mk.inj hFront).2
            exact cut_end fun _ => hThree
        · obtain rfl := (Prod.mk.inj hFront).2
          exact cut_before [b] (fun _ => hTwo) fun hForm => hThird hForm.third
      next =>
        obtain rfl := (Prod.mk.inj hFront).2
        exact cut_end fun _ => hTwo
    · obtain rfl := (Prod.mk.inj hFront).2
      exact cut_before [] (by simp) fun hForm => hSecond (hForm.second.2.2 hLead.1)
  next =>
    obtain rfl := (Prod.mk.inj hFront).2
    exact cut_end (by simp)

/-- Whatever the leading byte, the reader cuts off the longest stretch with which a character could
have begun. -/
theorem cut_of_front (hFront : front lead rest = (none, left)) : Cut lead rest left := by
  by_cases hOne : lead.toNat < 0x80
  · have hRead := (Form.one hOne).front_eq rest
    rw [List.nil_append, hFront] at hRead
    cases hRead
  by_cases hTwo : 0xC2 ≤ lead.toNat ∧ lead.toNat ≤ 0xDF
  · exact cut_of_front_two hTwo hFront
  by_cases hThree : 0xE0 ≤ lead.toNat ∧ lead.toNat ≤ 0xEF
  · exact cut_of_front_three hThree hFront
  by_cases hFour : 0xF0 ≤ lead.toNat ∧ lead.toNat ≤ 0xF4
  · exact cut_of_front_four hFour hFront
  -- No character of several bytes has this leading byte, and none of one byte.
  unfold front at hFront
  simp only [between_iff, UInt8.lt_iff_toNat_lt, UInt8.reduceToNat] at hFront
  rw [if_neg hOne, if_neg hTwo, if_neg hThree, if_neg hFour] at hFront
  obtain rfl := (Prod.mk.inj hFront).2
  cases rest with
  | nil => exact cut_end (by simp)
  | cons b others =>
      refine cut_before [] (by simp) fun hForm => ?_
      have hLead := hForm.lead_bounds
      omega

/-- What the reader replaces is a broken stretch. -/
theorem broken_of_front (hFront : front lead rest = (none, left)) :
    ∃ tail, rest = tail ++ left ∧ Broken (lead :: tail) left := by
  obtain ⟨tail, rfl, hBegins, hLongest⟩ := cut_of_front hFront
  refine ⟨tail, rfl, List.cons_ne_nil lead tail, fun hLength => hBegins ?_, hLongest,
    no_character_of_front hFront⟩
  rintro rfl
  exact hLength rfl

end Fronts

namespace Broken

variable {stretch other rest left : Bytes}

/-- Of two broken stretches at the front of the same bytes, neither is longer. -/
theorem length_le (hBroken : Broken stretch rest) (hOther : Broken other left)
    (hSame : stretch ++ rest = other ++ left) : other.length ≤ stretch.length := by
  by_contra hLonger
  obtain ⟨more, rfl⟩ : stretch <+: other :=
    List.prefix_of_prefix_length_le ⟨rest, hSame⟩ ⟨left, rfl⟩ (by omega)
  rw [List.append_assoc, List.append_cancel_left_eq] at hSame
  have hStretch := List.length_pos_iff.mpr hBroken.ne_nil
  rw [List.length_append] at hLonger
  obtain ⟨b, others, rfl⟩ := List.exists_cons_of_length_pos (l := more) (by omega)
  obtain ⟨c, hBegins⟩ := hOther.begins (by simp; omega)
  -- The longer one begins with a byte more than the stretch, which is too much for it.
  refine hBroken.longest b (by rw [hSame]; rfl) ⟨c, List.IsPrefix.trans ?_ hBegins⟩
  exact ⟨others, by simp⟩

/-- The same bytes begin with one broken stretch only. -/
theorem unique (hBroken : Broken stretch rest) (hOther : Broken other left)
    (hSame : stretch ++ rest = other ++ left) : stretch = other ∧ rest = left := by
  refine List.append_inj hSame (Nat.le_antisymm ?_ ?_)
  · exact hOther.length_le hBroken hSame.symm
  · exact hBroken.length_le hOther hSame

/-- The reader replaces a broken stretch by one character and goes on behind it. -/
theorem pieces_append (hBroken : Broken stretch rest) :
    pieces (stretch ++ rest) = none :: pieces rest := by
  obtain ⟨lead, tail, rfl⟩ := List.exists_cons_of_ne_nil hBroken.ne_nil
  rw [List.cons_append, pieces]
  rcases hFront : front lead (tail ++ rest) with ⟨_ | c, left⟩
  · obtain ⟨found, hBytes, hFound⟩ := broken_of_front hFront
    obtain ⟨-, rfl⟩ := hBroken.unique hFound (by rw [List.cons_append, List.cons_append, hBytes])
    rfl
  · exact absurd ⟨left, (append_of_front hFront).symm⟩ (hBroken.no_character c)

end Broken

/-- The text that the reader gives is one as which the bytes are read. -/
theorem decodes_decodeLossy (bytes : Bytes) : Decodes bytes (decodeLossy bytes).toList := by
  rw [decodeLossy, String.toList_ofList]
  fun_induction pieces bytes with
  | case1 => exact .nil
  | case2 lead rest ih =>
      rw [List.map_cons]
      rcases hFront : front lead rest with ⟨_ | c, left⟩
      · rw [hFront] at ih
        obtain ⟨tail, rfl, hBroken⟩ := broken_of_front hFront
        exact .replaced hBroken ih
      · rw [hFront] at ih
        rw [append_of_front hFront]
        exact .character c ih

/-- Bytes are read as one text. -/
theorem decodes_iff {bytes : Bytes} {text : List Char} :
    Decodes bytes text ↔ (decodeLossy bytes).toList = text := by
  constructor
  · intro hText
    rw [decodeLossy, String.toList_ofList]
    induction hText with
    | nil => simp [pieces]
    | character c _ ih => rw [pieces_encodeChar_append, List.map_cons, ih, Option.getD_some]
    | replaced hBroken _ ih => rw [hBroken.pieces_append, List.map_cons, ih, Option.getD_none]
  · rintro rfl
    exact decodes_decodeLossy bytes

end CallbackWeave.Utf8

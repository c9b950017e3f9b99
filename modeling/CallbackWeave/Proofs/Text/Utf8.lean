import CallbackWeave.Text.Utf8
import Mathlib.Data.List.Basic

/-!
Text read from bytes and written again. A character is read from the bytes with which it is
written, and from no others. So UTF-8 is kept as it is, and all bytes of text read from any bytes
are bytes of these, or belong to the replacement character.
-/

namespace CallbackWeave.Utf8

theorem encode_append (s t : String) : encode (s ++ t) = encode s ++ encode t := by
  simp [encode, encodeChars]

/-- The code point of a character made from one that is no surrogate. -/
theorem toNat_val_ofNat {n : Nat} (hValid : n < 0xD800 ∨ 0xDFFF < n ∧ n < 0x110000) :
    (Char.ofNat n).val.toNat = n := by
  rw [Char.ofNat, dif_pos (show n.isValidChar from hValid)]
  rfl

/-- A byte lies within bounds if the number that it stands for does. -/
theorem between_iff {low high b : UInt8} : (decide (low ≤ b) && decide (b ≤ high)) = true ↔
    low.toNat ≤ b.toNat ∧ b.toNat ≤ high.toNat := by
  simp [UInt8.le_iff_toNat_le]

theorem isContinuation_iff {b : UInt8} :
    isContinuation b = true ↔ 0x80 ≤ b.toNat ∧ b.toNat ≤ 0xBF :=
  between_iff

theorem secondOfThree_iff {a b : UInt8} : secondOfThree a b = true ↔
    0x80 ≤ b.toNat ∧ b.toNat ≤ 0xBF ∧ (a.toNat = 0xE0 → 0xA0 ≤ b.toNat) ∧
      (a.toNat = 0xED → b.toNat ≤ 0x9F) := by
  unfold secondOfThree
  simp only [← UInt8.toNat_inj, UInt8.reduceToNat]
  split_ifs <;>
    simp only [isContinuation_iff, between_iff, UInt8.reduceToNat] <;> omega

theorem secondOfFour_iff {a b : UInt8} : secondOfFour a b = true ↔
    0x80 ≤ b.toNat ∧ b.toNat ≤ 0xBF ∧ (a.toNat = 0xF0 → 0x90 ≤ b.toNat) ∧
      (a.toNat = 0xF4 → b.toNat ≤ 0x8F) := by
  unfold secondOfFour
  simp only [← UInt8.toNat_inj, UInt8.reduceToNat]
  split_ifs <;>
    simp only [isContinuation_iff, between_iff, UInt8.reduceToNat] <;> omega

section Characters

variable {a b c d : UInt8}

/-- A character of one byte is written with this byte. -/
theorem encodeChar_one (hLead : a.toNat < 0x80) :
    String.utf8EncodeChar (Char.ofNat a.toNat) = [a] := by
  rw [String.utf8EncodeChar, toNat_val_ofNat (by omega)]
  simp only [show a.toNat ≤ 127 by omega, if_true, UInt8.ofNat_toNat]

theorem encodeChar_two (hLead : 0xC2 ≤ a.toNat ∧ a.toNat ≤ 0xDF)
    (hSecond : isContinuation b = true) :
    String.utf8EncodeChar (Char.ofNat ((a.toNat - 0xC0) * 64 + payload b)) = [a, b] := by
  rw [isContinuation_iff] at hSecond
  have hPayload : payload b = b.toNat - 0x80 := rfl
  rw [String.utf8EncodeChar, toNat_val_ofNat (by omega)]
  simp only [show ¬ (a.toNat - 0xC0) * 64 + payload b ≤ 127 by omega,
    show (a.toNat - 0xC0) * 64 + payload b ≤ 2047 by omega, if_true, if_false]
  simp only [List.cons.injEq, and_true, ← UInt8.toNat_inj, UInt8.toNat_ofNat']
  omega

/-- The bounds of the second byte of three leave out shorter forms and surrogates. -/
theorem encodeChar_three (hLead : 0xE0 ≤ a.toNat ∧ a.toNat ≤ 0xEF)
    (hSecond : secondOfThree a b = true) (hThird : isContinuation c = true) :
    String.utf8EncodeChar
      (Char.ofNat ((a.toNat - 0xE0) * 4096 + payload b * 64 + payload c)) = [a, b, c] := by
  rw [isContinuation_iff] at hThird
  rw [secondOfThree_iff] at hSecond
  have hPayloads : payload b = b.toNat - 0x80 ∧ payload c = c.toNat - 0x80 := ⟨rfl, rfl⟩
  rw [String.utf8EncodeChar, toNat_val_ofNat (by omega)]
  simp only [
    show ¬ (a.toNat - 0xE0) * 4096 + payload b * 64 + payload c ≤ 127 by omega,
    show ¬ (a.toNat - 0xE0) * 4096 + payload b * 64 + payload c ≤ 2047 by omega,
    show (a.toNat - 0xE0) * 4096 + payload b * 64 + payload c ≤ 65535 by omega, if_true, if_false]
  simp only [List.cons.injEq, and_true, ← UInt8.toNat_inj, UInt8.toNat_ofNat']
  omega

/-- The bounds of the second byte of four leave out shorter forms and what is no code point. -/
theorem encodeChar_four (hLead : 0xF0 ≤ a.toNat ∧ a.toNat ≤ 0xF4)
    (hSecond : secondOfFour a b = true) (hThird : isContinuation c = true)
    (hFourth : isContinuation d = true) :
    String.utf8EncodeChar (Char.ofNat ((a.toNat - 0xF0) * 262144 + payload b * 4096
      + payload c * 64 + payload d)) = [a, b, c, d] := by
  rw [isContinuation_iff] at hThird hFourth
  rw [secondOfFour_iff] at hSecond
  have hPayloads : payload b = b.toNat - 0x80 ∧ payload c = c.toNat - 0x80 ∧
      payload d = d.toNat - 0x80 := ⟨rfl, rfl, rfl⟩
  generalize hPoint : (a.toNat - 0xF0) * 262144 + payload b * 4096 + payload c * 64 + payload d =
    point
  rw [String.utf8EncodeChar, toNat_val_ofNat (by omega)]
  simp only [show ¬ point ≤ 127 by omega, show ¬ point ≤ 2047 by omega,
    show ¬ point ≤ 65535 by omega, if_false]
  simp only [List.cons.injEq, and_true, ← UInt8.toNat_inj, UInt8.toNat_ofNat']
  omega

end Characters

/-- The bytes of a code point: the leading one and those that follow it. The bounds of the second
byte leave out shorter forms, surrogates and what is no code point. -/
inductive Form : UInt8 → Bytes → Nat → Prop
  | one {a : UInt8} (hLead : a.toNat < 0x80) : Form a [] a.toNat
  | two {a b : UInt8} (hLead : 0xC2 ≤ a.toNat ∧ a.toNat ≤ 0xDF)
      (hSecond : isContinuation b = true) : Form a [b] ((a.toNat - 0xC0) * 64 + payload b)
  | three {a b c : UInt8} (hLead : 0xE0 ≤ a.toNat ∧ a.toNat ≤ 0xEF)
      (hSecond : secondOfThree a b = true) (hThird : isContinuation c = true) :
      Form a [b, c] ((a.toNat - 0xE0) * 4096 + payload b * 64 + payload c)
  | four {a b c d : UInt8} (hLead : 0xF0 ≤ a.toNat ∧ a.toNat ≤ 0xF4)
      (hSecond : secondOfFour a b = true) (hThird : isContinuation c = true)
      (hFourth : isContinuation d = true) :
      Form a [b, c, d]
        ((a.toNat - 0xF0) * 262144 + payload b * 4096 + payload c * 64 + payload d)

namespace Form

variable {lead : UInt8} {tail : Bytes} {point : Nat}

/-- A form is what its character is written with. -/
theorem encodeChar_eq (hForm : Form lead tail point) :
    String.utf8EncodeChar (Char.ofNat point) = lead :: tail := by
  cases hForm with
  | one hLead => exact encodeChar_one hLead
  | two hLead hSecond => exact encodeChar_two hLead hSecond
  | three hLead hSecond hThird => exact encodeChar_three hLead hSecond hThird
  | four hLead hSecond hThird hFourth => exact encodeChar_four hLead hSecond hThird hFourth

/-- The reader takes a form off the front of any bytes and gives its character. -/
theorem front_eq (hForm : Form lead tail point) (rest : Bytes) :
    front lead (tail ++ rest) = (some (Char.ofNat point), rest) := by
  unfold front
  simp only [between_iff, UInt8.lt_iff_toNat_lt, UInt8.reduceToNat]
  cases hForm with
  | one hLead => exact if_pos hLead
  | two hLead hSecond =>
      rw [if_neg (by omega), if_pos hLead]
      exact if_pos hSecond
  | three hLead hSecond hThird =>
      rw [if_neg (by omega), if_neg (by omega), if_pos hLead]
      exact (if_pos hSecond).trans (if_pos hThird)
  | four hLead hSecond hThird hFourth =>
      rw [if_neg (by omega), if_neg (by omega), if_neg (by omega), if_pos hLead]
      exact (if_pos hSecond).trans ((if_pos hThird).trans (if_pos hFourth))

end Form

/-- Where the reader gives a character, a form of it stands at the front. -/
theorem exists_form_of_front {lead : UInt8} {rest left : Bytes} {c : Char}
    (hFront : front lead rest = (some c, left)) :
    ∃ tail point, Form lead tail point ∧ rest = tail ++ left ∧ c = Char.ofNat point := by
  unfold front at hFront
  simp only [between_iff, UInt8.lt_iff_toNat_lt, UInt8.reduceToNat] at hFront
  -- One case for each number of bytes that a character takes; in all others there is none.
  split_ifs at hFront with hOne hTwo hThree hFour
  · obtain ⟨rfl, rfl⟩ : Char.ofNat lead.toNat = c ∧ rest = left := by simpa using hFront
    exact ⟨_, _, .one hOne, rfl, rfl⟩
  · split at hFront
    next second rest₂ =>
      split_ifs at hFront with hSecond
      · obtain ⟨rfl, rfl⟩ := Prod.mk.inj hFront |>.imp_left Option.some.inj
        exact ⟨_, _, .two hTwo hSecond, rfl, rfl⟩
      · cases hFront
    next => cases hFront
  · split at hFront
    next second rest₂ =>
      split_ifs at hFront with hSecond
      · split at hFront
        next third rest₃ =>
          split_ifs at hFront with hThird
          · obtain ⟨rfl, rfl⟩ := Prod.mk.inj hFront |>.imp_left Option.some.inj
            exact ⟨_, _, .three hThree hSecond hThird, rfl, rfl⟩
          · cases hFront
        next => cases hFront
      · cases hFront
    next => cases hFront
  · split at hFront
    next second rest₂ =>
      split_ifs at hFront with hSecond
      · split at hFront
        next third rest₃ =>
          split_ifs at hFront with hThird
          · split at hFront
            next fourth rest₄ =>
              split_ifs at hFront with hFourth
              · obtain ⟨rfl, rfl⟩ := Prod.mk.inj hFront |>.imp_left Option.some.inj
                exact ⟨_, _, .four hFour hSecond hThird hFourth, rfl, rfl⟩
              · cases hFront
            next => cases hFront
          · cases hFront
        next => cases hFront
      · cases hFront
    next => cases hFront
  · cases hFront

/-- A character at the front of bytes is written with the bytes from which it is read. -/
theorem append_of_front {lead : UInt8} {rest left : Bytes} {c : Char}
    (hFront : front lead rest = (some c, left)) :
    lead :: rest = String.utf8EncodeChar c ++ left := by
  obtain ⟨tail, point, hForm, rfl, rfl⟩ := exists_form_of_front hFront
  rw [hForm.encodeChar_eq, List.cons_append]

/-- Reading a front leaves an end of the bytes. -/
theorem front_suffix (lead : UInt8) (rest : Bytes) : (front lead rest).2 <:+ rest := by
  unfold front
  repeat' split
  all_goals simp [List.suffix_cons_iff]

/-- The bytes of text read from any bytes are bytes of these, except for those of the replacement
character. -/
theorem mem_of_mem_encode_decodeLossy {bytes : Bytes} {byte : UInt8}
    (hMem : byte ∈ encode (decodeLossy bytes)) :
    byte ∈ bytes ∨ byte ∈ String.utf8EncodeChar '\uFFFD' := by
  simp only [encode, decodeLossy, encodeChars, String.toList_ofList, List.flatMap_map] at hMem
  fun_induction pieces bytes with
  | case1 => simp at hMem
  | case2 lead rest ih =>
      have hRest : byte ∈ (front lead rest).2 → byte ∈ lead :: rest := fun hLeft =>
        List.mem_cons_of_mem _ ((front_suffix lead rest).subset hLeft)
      rw [List.flatMap_cons, List.mem_append] at hMem
      rcases hMem with hFirst | hOthers
      · cases hFront : (front lead rest).1 with
        | none => exact Or.inr (by simpa [hFront] using hFirst)
        | some c =>
            have hBytes := append_of_front (Prod.ext hFront rfl)
            rw [hBytes]
            exact Or.inl (List.mem_append_left _ (by simpa [hFront] using hFirst))
      · exact (ih hOthers).imp_left hRest

theorem toNat_ofNat_byte {n : Nat} (hByte : n < 256) : (UInt8.ofNat n).toNat = n := by
  rw [UInt8.toNat_ofNat', Nat.mod_eq_of_lt hByte]

section Continuation

variable {n : Nat} (hPayload : n < 64)
include hPayload

theorem isContinuation_ofNat : isContinuation (UInt8.ofNat (n + 0x80)) = true := by
  rw [isContinuation_iff, toNat_ofNat_byte (by omega)]
  omega

theorem payload_ofNat : payload (UInt8.ofNat (n + 0x80)) = n := by
  unfold payload
  rw [toNat_ofNat_byte (by omega)]
  exact Nat.add_sub_cancel n 0x80

end Continuation

/-- Every code point that is no surrogate has a form. -/
theorem exists_form (point : Nat)
    (hValid : point < 0xD800 ∨ 0xDFFF < point ∧ point < 0x110000) :
    ∃ lead tail, Form lead tail point := by
  obtain hOne | hTwo | hThree | hFour : point < 0x80 ∨ (0x80 ≤ point ∧ point < 0x800) ∨
      (0x800 ≤ point ∧ point < 0x10000) ∨ 0x10000 ≤ point := by omega
  · have hLead := toNat_ofNat_byte (n := point) (by omega)
    have hForm := Form.one (a := UInt8.ofNat point) (by omega)
    rw [hLead] at hForm
    exact ⟨_, _, hForm⟩
  · have hLead := toNat_ofNat_byte (n := point / 64 + 0xC0) (by omega)
    have hForm := Form.two (a := UInt8.ofNat (point / 64 + 0xC0)) (by omega)
      (isContinuation_ofNat (n := point % 64) (by omega))
    rw [hLead, payload_ofNat (by omega),
      show (point / 64 + 0xC0 - 0xC0) * 64 + point % 64 = point by omega] at hForm
    exact ⟨_, _, hForm⟩
  · have hLead := toNat_ofNat_byte (n := point / 4096 + 0xE0) (by omega)
    have hByte := toNat_ofNat_byte (n := point / 64 % 64 + 0x80) (by omega)
    have hForm := Form.three (a := UInt8.ofNat (point / 4096 + 0xE0))
      (b := UInt8.ofNat (point / 64 % 64 + 0x80)) (by omega)
      (secondOfThree_iff.mpr (by omega)) (isContinuation_ofNat (n := point % 64) (by omega))
    rw [hLead, payload_ofNat (by omega), payload_ofNat (by omega),
      show (point / 4096 + 0xE0 - 0xE0) * 4096 + point / 64 % 64 * 64 + point % 64 = point by
        omega] at hForm
    exact ⟨_, _, hForm⟩
  · have hLead := toNat_ofNat_byte (n := point / 262144 + 0xF0) (by omega)
    have hByte := toNat_ofNat_byte (n := point / 4096 % 64 + 0x80) (by omega)
    have hForm := Form.four (a := UInt8.ofNat (point / 262144 + 0xF0))
      (b := UInt8.ofNat (point / 4096 % 64 + 0x80)) (by omega)
      (secondOfFour_iff.mpr (by omega)) (isContinuation_ofNat (n := point / 64 % 64) (by omega))
      (isContinuation_ofNat (n := point % 64) (by omega))
    rw [hLead, payload_ofNat (by omega), payload_ofNat (by omega), payload_ofNat (by omega),
      show (point / 262144 + 0xF0 - 0xF0) * 262144 + point / 4096 % 64 * 4096 +
        point / 64 % 64 * 64 + point % 64 = point by omega] at hForm
    exact ⟨_, _, hForm⟩

/-- Every character is written in one of the forms. -/
theorem exists_form_encodeChar (c : Char) :
    ∃ lead tail, Form lead tail c.toNat ∧ String.utf8EncodeChar c = lead :: tail := by
  obtain ⟨lead, tail, hForm⟩ := exists_form c.toNat c.valid
  refine ⟨lead, tail, hForm, ?_⟩
  rw [← hForm.encodeChar_eq, Char.ofNat_toNat]

/-- The bytes of a character are read as this character, whatever follows them. -/
theorem pieces_encodeChar_append (c : Char) (rest : Bytes) :
    pieces (String.utf8EncodeChar c ++ rest) = some c :: pieces rest := by
  obtain ⟨lead, tail, hForm, hBytes⟩ := exists_form_encodeChar c
  rw [hBytes, List.cons_append, pieces, hForm.front_eq, Char.ofNat_toNat]

/-- A text is read from the bytes with which it is written. -/
theorem pieces_encodeChars (s : List Char) : pieces (encodeChars s) = s.map some := by
  induction s with
  | nil => simp [encodeChars, pieces]
  | cons c rest ih =>
      rw [encodeChars, List.flatMap_cons, pieces_encodeChar_append, ← encodeChars, ih,
        List.map_cons]

/-- A text is read again from the bytes that it is written with. -/
theorem decodeLossy_encodeChars (s : List Char) :
    decodeLossy (encodeChars s) = String.ofList s := by
  have hChars : (s.map some).map (·.getD '\uFFFD') = s := by
    rw [List.map_map]
    exact List.map_id s
  rw [decodeLossy, pieces_encodeChars, hChars]

/-- Texts with the same bytes are the same. -/
theorem encode_injective : Function.Injective encode := by
  intro s t hSame
  have hRead := congrArg decodeLossy hSame
  rwa [encode, encode, decodeLossy_encodeChars, decodeLossy_encodeChars, String.ofList_toList,
    String.ofList_toList] at hRead

/-- Bytes are found again when what is read from them is written, exactly if they are UTF-8. -/
theorem encode_decodeLossy_eq_iff {bytes : Bytes} :
    encode (decodeLossy bytes) = bytes ↔ bytes.toByteArray.IsValidUTF8 := by
  constructor
  · intro hSame
    exact ⟨(decodeLossy bytes).toList, congrArg List.toByteArray hSame.symm⟩
  · rintro ⟨chars, hChars⟩
    have hBytes : bytes = encodeChars chars := List.toByteArray_inj.mp hChars
    rw [hBytes, decodeLossy_encodeChars, encode, String.toList_ofList]

/-- Bytes that are UTF-8 are kept when they are read as text. -/
theorem toByteArray_decodeLossy {bytes : Bytes} (hValid : bytes.toByteArray.IsValidUTF8) :
    (decodeLossy bytes).toByteArray = bytes.toByteArray := by
  obtain ⟨chars, hChars⟩ := hValid
  have hBytes : bytes = encodeChars chars := List.toByteArray_inj.mp hChars
  rw [hBytes, decodeLossy_encodeChars, String.toByteArray_ofList]
  rfl

end CallbackWeave.Utf8

import CallbackWeave.Json.Reader
import CallbackWeave.Json.Writer
import Mathlib.Data.List.Basic

/-!
Strings are read back as they were written. Which characters are escaped, and how, is said once by
`Spelling`; the reader that gives the characters and the one that passes over them both go by it.
-/

namespace CallbackWeave.Json

/-- A step that gives a value hands it on to the next one. -/
@[simp]
theorem ok_bind {α β : Type} (value : α) (next : α → Except Fault β) :
    (Except.ok value >>= next) = next value := rfl

/-- What a character is written with in a string. -/
inductive Spelling (c : Char) : List Char → Prop
  | letter {e : Char} (denotes : escaped? e = some c) : Spelling c ['\\', e]
  | digits {a b : Char} (denotes : hexValue? '0' '0' a b = some c.toNat) :
      Spelling c ['\\', 'u', '0', '0', a, b]
  | itself (unquoted : c ≠ '"') (unescaped : c ≠ '\\') (printable : ¬ c.toNat < 0x20) :
      Spelling c [c]

/-- The digits of a control character, filled up to two. -/
theorem filled_toDigits : ∀ n < 0x20,
    (if n < 0x10 then '0' :: Nat.toDigits 16 n else Nat.toDigits 16 n) =
      [(n / 16).digitChar, (n % 16).digitChar] := by decide +kernel

theorem hexValue?_digitChar : ∀ n < 0x20,
    hexValue? '0' '0' (n / 16).digitChar (n % 16).digitChar = some n := by decide +kernel

/-- The writer gives one of the spellings of a character. -/
theorem spelling_writeChar (c : Char) : Spelling c (writeChar c) := by
  unfold writeChar
  split_ifs with hQuote hEscape hBack hFeed hLine hReturn hTab hShort hLong
  · subst hQuote; exact .letter rfl
  · subst hEscape; exact .letter rfl
  · subst hBack; exact .letter rfl
  · subst hFeed; exact .letter rfl
  · subst hLine; exact .letter rfl
  · subst hReturn; exact .letter rfl
  · subst hTab; exact .letter rfl
  · have hControl : c.toNat < 0x20 := by omega
    have hDigits := filled_toDigits c.toNat hControl
    rw [if_pos hShort] at hDigits
    simpa [hDigits] using Spelling.digits (hexValue?_digitChar c.toNat hControl)
  · have hDigits := filled_toDigits c.toNat hLong
    rw [if_neg hShort] at hDigits
    simpa [hDigits] using Spelling.digits (hexValue?_digitChar c.toNat hLong)
  · exact .itself hQuote hEscape hLong

theorem Spelling.ne_nil {c : Char} {text : List Char} (h : Spelling c text) : text ≠ [] := by
  cases h <;> simp

/-- Each character takes some place. -/
theorem length_le_flatMap_writeChar (characters : List Char) :
    characters.length ≤ (characters.flatMap writeChar).length := by
  induction characters with
  | nil => simp
  | cons c more ih =>
      have hPlace := List.length_pos_iff.mpr (spelling_writeChar c).ne_nil
      rw [List.flatMap_cons, List.length_append, List.length_cons]
      omega

theorem ne_u_of_escaped? {e c : Char} (hDenotes : escaped? e = some c) : e ≠ 'u' := by
  rintro rfl
  cases hDenotes

/-! ## Strings that are read -/

/-- A character has no number of its own among the halves of pairs. -/
theorem not_surrogate (c : Char) :
    isLowSurrogate c.toNat = false ∧ isHighSurrogate c.toNat = false := by
  have hValid : c.toNat < 0xD800 ∨ 0xDFFF < c.toNat := by
    rcases c.valid with hLow | ⟨hHigh, -⟩
    · exact .inl hLow
    · exact .inr hHigh
  constructor
  · simp only [isLowSurrogate, Bool.and_eq_false_iff, decide_eq_false_iff_not]
    omega
  · simp only [isHighSurrogate, Bool.and_eq_false_iff, decide_eq_false_iff_not]
    omega

theorem readHex_of_hexValue? {a b x y : Char} {n : Nat} (hDenotes : hexValue? a b x y = some n)
    (rest : List Char) : readHex (a :: b :: x :: y :: rest) = .ok (n, rest) := by
  rw [readHex, hDenotes]

/-- Four digits that denote a character are read as this character, with no second group behind
them. -/
theorem readUnicode_of_hexValue? {a b x y c : Char} (hDenotes : hexValue? a b x y = some c.toNat)
    (rest : List Char) : readUnicode (a :: b :: x :: y :: rest) = .ok (c, rest) := by
  rw [readUnicode, readHex_of_hexValue? hDenotes]
  obtain ⟨hLow, hHigh⟩ := not_surrogate c
  simp [hLow, hHigh, Pure.pure, Except.pure]

/-- One character is taken off the front of a string. -/
theorem readCharacters_spelling {c : Char} {text : List Char} (hText : Spelling c text)
    (fuel : Nat) (rest : List Char) :
    readCharacters (fuel + 1) (text ++ rest) =
      (readCharacters fuel rest).map fun taken => (c :: taken.1, taken.2) := by
  have hRead : readCharacters (fuel + 1) (text ++ rest) = (do
      let taken ← readCharacters fuel rest
      return (c :: taken.1, taken.2)) := by
    cases hText with
    | @letter e hDenotes =>
        have hEscape : readEscape (e :: rest) = .ok (c, rest) := by
          rw [readEscape.eq_def]
          simp [ne_u_of_escaped? hDenotes, hDenotes]
        simp [readCharacters, hEscape]
    | digits hDenotes =>
        have hEscape := readUnicode_of_hexValue? hDenotes rest
        simp [readCharacters, readEscape, hEscape]
    | itself hUnquoted hUnescaped hPrintable =>
        simp [readCharacters, hPrintable]
  rw [hRead]
  cases readCharacters fuel rest <;> rfl

/-- The characters of a string as it is written are read again, up to the mark that closes it. -/
theorem readCharacters_written (characters rest : List Char) {fuel : Nat}
    (hFuel : characters.length < fuel) :
    readCharacters fuel (characters.flatMap writeChar ++ '"' :: rest) = .ok (characters, rest) := by
  induction characters generalizing fuel with
  | nil =>
      obtain ⟨fuel, rfl⟩ := Nat.exists_eq_add_of_lt hFuel
      simp [readCharacters]
  | cons c more ih =>
      obtain ⟨left, rfl⟩ := Nat.exists_eq_add_of_lt hFuel
      rw [List.flatMap_cons, List.append_assoc,
        readCharacters_spelling (spelling_writeChar c), ih (by simp; omega)]
      rfl

/-- A string is read from what is written of it. -/
theorem readString_written (s : String) (rest : List Char) :
    readString (s.toList.flatMap writeChar ++ '"' :: rest) = .ok (s, rest) := by
  have hFuel : s.toList.length < (s.toList.flatMap writeChar ++ '"' :: rest).length + 1 := by
    have hPlace := length_le_flatMap_writeChar s.toList
    rw [List.length_append]
    omega
  rw [readString, readCharacters_written _ _ hFuel]
  simp [Pure.pure, Except.pure]

theorem skipSpace_of_not_isSpace {c : Char} (hPart : isSpace c = false) (rest : List Char) :
    skipSpace (c :: rest) = c :: rest := by
  simp [skipSpace, hPart]

/-- A string is read whole, and nothing after it. -/
theorem readText_writeString (expected s : String) (rest : List Char) :
    readText expected (writeString s ++ rest) = .ok (s, rest) := by
  have hOpen : writeString s ++ rest = '"' :: (s.toList.flatMap writeChar ++ '"' :: rest) := by
    simp [writeString]
  rw [readText, hOpen, skipSpace_of_not_isSpace rfl]
  exact readString_written s rest

/-! ## Strings that are passed over -/

/-- The scanner passes one character in one round, however it is spelled. -/
theorem skipCharacters_spelling {c : Char} {text : List Char} (hText : Spelling c text)
    (fuel : Nat) (rest : List Char) :
    skipCharacters (fuel + 1) (text ++ rest) = skipCharacters fuel rest := by
  cases hText with
  | @letter e hDenotes =>
      simp [skipCharacters, ne_u_of_escaped? hDenotes, hDenotes]
  | digits hDenotes =>
      have hHex := readHex_of_hexValue? hDenotes rest
      simp [skipCharacters, hHex]
  | itself hUnquoted hUnescaped hPrintable =>
      rw [List.singleton_append, skipCharacters, if_neg hPrintable]
      -- No earlier pattern of the scanner matches.
      all_goals simp [hUnquoted, hUnescaped]

theorem skipCharacters_written (characters rest : List Char) {fuel : Nat}
    (hFuel : characters.length < fuel) :
    skipCharacters fuel (characters.flatMap writeChar ++ '"' :: rest) = .ok rest := by
  induction characters generalizing fuel with
  | nil =>
      obtain ⟨fuel, rfl⟩ := Nat.exists_eq_add_of_lt hFuel
      simp [skipCharacters]
  | cons c more ih =>
      obtain ⟨left, rfl⟩ := Nat.exists_eq_add_of_lt hFuel
      rw [List.flatMap_cons, List.append_assoc,
        skipCharacters_spelling (spelling_writeChar c), ih (by simp; omega)]

/-- A string as it is written is passed as a whole. -/
theorem skipString_written (s : String) (rest : List Char) :
    skipString (s.toList.flatMap writeChar ++ '"' :: rest) = .ok rest := by
  have hPlace := length_le_flatMap_writeChar s.toList
  exact skipCharacters_written _ _ (by rw [List.length_append]; omega)

end CallbackWeave.Json

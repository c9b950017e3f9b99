import CallbackWeave.Filter.LineMarker
import CallbackWeave.Proofs.Text.Replacement
import Mathlib.Data.List.Induction
import Mathlib.Data.List.TakeWhile
import Mathlib.Data.Nat.Digits.Defs

/-!
The grammar of line markers, stated without the reader: the parts of a marker and how its line is
put together from them. The main statement says that the reader takes exactly the lines of the
grammar, that a line has one form only, and what is read from each part.
-/

namespace CallbackWeave

namespace LineMarker

/-- One decimal digit or more. -/
structure IsNumeral (bytes : Bytes) : Prop where
  nonempty : bytes ≠ []
  digits : ∀ b ∈ bytes, 0x30 ≤ b.toNat ∧ b.toNat ≤ 0x39

/-- The number that a numeral stands for. The last digit counts the ones. -/
def value (numeral : Bytes) : Nat :=
  Nat.ofDigits 10 (numeral.reverse.map fun b => b.toNat - 0x30)

end LineMarker

open LineMarker (IsNumeral value)

/-- The parts of a line that is a marker. -/
structure MarkerText where
  number : Bytes
  name : Bytes
  flags : List Bytes
  number_isNumeral : IsNumeral number
  name_ne_nil : name ≠ []
  quote_notMem : LineMarker.quote ∉ name
  flags_isNumeral : ∀ flag ∈ flags, IsNumeral flag

namespace MarkerText

/-- The line of a marker. -/
def bytes (text : MarkerText) : Bytes :=
  Utf8.encode "# " ++ text.number ++ Utf8.encode " \"" ++ text.name ++ Utf8.encode "\"" ++
    text.flags.flatMap (Utf8.encode " " ++ ·)

/-- What a line says if it is put together from these parts. -/
structure Describes (text : MarkerText) (marker : LineMarker) : Prop where
  line : marker.line = min (value text.number) (2 ^ 64 - 1)
  file : Utf8.Decodes text.name marker.file.toList
  /-- A name that is UTF-8 is kept as it is. -/
  file_of_valid : text.name.toByteArray.IsValidUTF8 →
    marker.file.toByteArray = text.name.toByteArray
  enterFile : marker.flags.enterFile = true ↔ ∃ flag ∈ text.flags, value flag = 1
  returnToPrevious : marker.flags.returnToPrevious = true ↔ ∃ flag ∈ text.flags, value flag = 2
  systemHeader : marker.flags.systemHeader = true ↔ ∃ flag ∈ text.flags, value flag = 3
  implicitExternC : marker.flags.implicitExternC = true ↔ ∃ flag ∈ text.flags, value flag = 4

end MarkerText

namespace LineMarker

/-- A front all of whose members satisfy a predicate is cut off before the first one that does
not. -/
theorem cut_append {α : Type} {p : α → Bool} {front rest : List α}
    (hFront : ∀ a ∈ front, p a = true) (hStop : ∀ a ∈ rest.head?, p a = false) :
    (front ++ rest).takeWhile p = front ∧ (front ++ rest).dropWhile p = rest := by
  rw [List.takeWhile_append_of_pos hFront, List.dropWhile_append_of_pos hFront]
  cases rest with
  | nil => simp
  | cons first others => simp [hStop first rfl]

section Numerals

variable {digits rest : Bytes}

theorem isDigit_iff (b : UInt8) : isDigit b = true ↔ 0x30 ≤ b.toNat ∧ b.toNat ≤ 0x39 := by
  simp [isDigit, UInt8.le_iff_toNat_le]

/-- The number that the reader adds up from the left is the value of the numeral. -/
theorem number_eq_value (numeral : Bytes) : number numeral = value numeral := by
  induction numeral using List.reverseRecOn with
  | nil => rfl
  | append_singleton front last ih =>
      rw [number] at ih ⊢
      rw [List.foldl_append, ih, value, value, List.reverse_append]
      simp only [List.foldl_cons, List.foldl_nil, List.reverse_singleton, List.singleton_append,
        List.map_cons, Nat.ofDigits_cons]
      omega

/-- A numeral is taken as a whole where no digit follows it. -/
theorem takeDigits?_append (hDigits : IsNumeral digits)
    (hStop : ∀ b ∈ rest.head?, isDigit b = false) :
    takeDigits? (digits ++ rest) = some (digits, rest) := by
  have hAll : ∀ b ∈ digits, isDigit b = true := fun b hMem =>
    (isDigit_iff b).mpr (hDigits.digits b hMem)
  obtain ⟨hTake, hDrop⟩ := cut_append hAll hStop
  rw [takeDigits?, hTake, hDrop]
  simp [hDigits.nonempty]

theorem isDigit_head_space (rest : Bytes) : ∀ b ∈ (space :: rest).head?, isDigit b = false := by
  intro b hHead
  obtain rfl : space = b := by simpa using hHead
  decide

/-- What is taken as digits is a numeral, and the rest follows it. -/
theorem of_takeDigits? {bytes : Bytes} (hDigits : takeDigits? bytes = some (digits, rest)) :
    IsNumeral digits ∧ bytes = digits ++ rest := by
  simp only [takeDigits?] at hDigits
  split_ifs at hDigits with hNone
  obtain ⟨rfl, rfl⟩ := Prod.mk.inj (Option.some.inj hDigits)
  refine ⟨⟨by simpa using hNone, fun b hMem => ?_⟩, List.takeWhile_append_dropWhile.symm⟩
  exact (isDigit_iff b).mp (List.mem_takeWhile_imp hMem)

/-- A numeral ends at the first byte that is no digit. -/
theorem numeral_append_inj {other left : Bytes} (hDigits : IsNumeral digits)
    (hOther : IsNumeral other) (hStop : ∀ b ∈ rest.head?, isDigit b = false)
    (hStopOther : ∀ b ∈ left.head?, isDigit b = false) (hSame : digits ++ rest = other ++ left) :
    digits = other ∧ rest = left := by
  have hTaken := takeDigits?_append hDigits hStop
  rw [hSame, takeDigits?_append hOther hStopOther] at hTaken
  exact (Prod.mk.inj (Option.some.inj hTaken)).imp Eq.symm Eq.symm

end Numerals

section Names

variable {name rest : Bytes}

/-- A name is taken up to the next quotation mark. -/
theorem takeName?_append (hSome : name ≠ []) (hFree : quote ∉ name) :
    takeName? (name ++ quote :: rest) = some (name, rest) := by
  have hAll : ∀ b ∈ name, decide (b ≠ quote) = true := fun b hMem =>
    decide_eq_true fun hQuote => hFree (hQuote ▸ hMem)
  have hStop : ∀ b ∈ (quote :: rest).head?, decide (b ≠ quote) = false := by simp
  obtain ⟨hTake, hDrop⟩ := cut_append hAll hStop
  obtain ⟨first, more, rfl⟩ := List.exists_cons_of_ne_nil hSome
  rw [takeName?, hTake, hDrop]

/-- What is taken as a name is not empty and holds no quotation mark, and one follows it. -/
theorem of_takeName? {bytes : Bytes} (hName : takeName? bytes = some (name, rest)) :
    name ≠ [] ∧ quote ∉ name ∧ bytes = name ++ quote :: rest := by
  unfold takeName? at hName
  split at hName
  next first more closing left hBefore hAfter =>
    obtain ⟨rfl, rfl⟩ := Prod.mk.inj (Option.some.inj hName)
    have hQuote : closing = quote := by
      have hHead := List.head?_dropWhile_not (fun b => decide (b ≠ quote)) bytes
      rw [hAfter] at hHead
      simpa using hHead
    have hFree : quote ∉ first :: more := by
      rw [← hBefore]
      exact fun hMem => by simpa using List.mem_takeWhile_imp hMem
    refine ⟨List.cons_ne_nil first more, hFree, ?_⟩
    calc bytes = bytes.takeWhile (· ≠ quote) ++ bytes.dropWhile (· ≠ quote) :=
          List.takeWhile_append_dropWhile.symm
      _ = first :: more ++ quote :: left := by rw [hBefore, hAfter, hQuote]
  next => cases hName

/-- A name ends at the first quote. -/
theorem name_append_inj {other left : Bytes} (hSome : name ≠ []) (hFree : quote ∉ name)
    (hSomeOther : other ≠ []) (hFreeOther : quote ∉ other)
    (hSame : name ++ quote :: rest = other ++ quote :: left) : name = other ∧ rest = left := by
  have hTaken : takeName? (name ++ quote :: rest) = some (name, rest) :=
    takeName?_append hSome hFree
  rw [hSame, takeName?_append hSomeOther hFreeOther] at hTaken
  exact (Prod.mk.inj (Option.some.inj hTaken)).imp Eq.symm Eq.symm

end Names

section Flags

/-- The flags of a marker, as they stand behind the name. -/
def flagBytes (flags : List Bytes) : Bytes := flags.flatMap (space :: ·)

variable {flags : List Bytes}

theorem flagBytes_cons (flag : Bytes) (rest : List Bytes) :
    flagBytes (flag :: rest) = space :: (flag ++ flagBytes rest) := by
  simp [flagBytes]

theorem length_le_length_flagBytes : flags.length ≤ (flagBytes flags).length := by
  induction flags with
  | nil => exact Nat.le_refl 0
  | cons flag rest ih =>
      rw [flagBytes_cons, List.length_cons, List.length_cons, List.length_append]
      omega

/-- A flag ends where the next one begins. -/
theorem isDigit_head_flagBytes : ∀ b ∈ (flagBytes flags).head?, isDigit b = false := by
  cases flags with
  | nil => simp [flagBytes]
  | cons flag rest =>
      rw [flagBytes_cons]
      exact isDigit_head_space _

/-- The flags of a marker are read one after another, up to the end of the line. -/
theorem flagNumbers?_flagBytes (hFlags : ∀ flag ∈ flags, IsNumeral flag) {fuel : Nat}
    (hFuel : flags.length ≤ fuel) :
    flagNumbers? fuel (flagBytes flags) = some (flags.map value) := by
  induction flags generalizing fuel with
  | nil => cases fuel <;> rfl
  | cons flag rest ih =>
      obtain ⟨hFlag, hRest⟩ := List.forall_mem_cons.mp hFlags
      -- Each flag takes one of the fuel, so that what is left is enough for the others.
      obtain ⟨left, rfl⟩ := Nat.exists_eq_add_of_le' hFuel
      have hLeft : rest.length ≤ rest.length + left := Nat.le_add_right _ _
      rw [flagBytes_cons, List.length_cons, ← Nat.add_assoc, Nat.add_comm left, flagNumbers?,
        if_pos rfl, takeDigits?_append hFlag isDigit_head_flagBytes, Option.bind_some]
      simp [ih hRest hLeft, number_eq_value]

/-- Bytes that are read as flags are those of some numerals, each behind a space. -/
theorem exists_flags_of_flagNumbers? {fuel : Nat} {bytes : Bytes} {numbers : List Nat}
    (hNumbers : flagNumbers? fuel bytes = some numbers) :
    ∃ flags, (∀ flag ∈ flags, IsNumeral flag) ∧ bytes = flagBytes flags := by
  fun_induction flagNumbers? fuel bytes generalizing numbers with
  | case1 => exact ⟨[], by simp, rfl⟩
  | case2 => cases hNumbers
  | case3 fuel rest ih =>
      obtain ⟨⟨flag, others⟩, hFlag, hOthers⟩ := Option.bind_eq_some_iff.mp hNumbers
      obtain ⟨found, hFound, rfl⟩ := Option.map_eq_some_iff.mp hOthers
      obtain ⟨hNumeral, rfl⟩ := of_takeDigits? hFlag
      obtain ⟨flags, hFlags, rfl⟩ := ih others hFound
      exact ⟨flag :: flags, List.forall_mem_cons.mpr ⟨hNumeral, hFlags⟩, (flagBytes_cons ..).symm⟩
  | case4 => cases hNumbers

/-- The bytes of the flags tell where one numeral ends and the next one begins. -/
theorem flagBytes_injective {other : List Bytes} (hFlags : ∀ flag ∈ flags, IsNumeral flag)
    (hOther : ∀ flag ∈ other, IsNumeral flag) (hSame : flagBytes flags = flagBytes other) :
    flags = other := by
  induction flags generalizing other with
  | nil =>
      cases other with
      | nil => rfl
      | cons flag rest => simp [flagBytes] at hSame
  | cons flag rest ih =>
      cases other with
      | nil => simp [flagBytes] at hSame
      | cons flag₂ rest₂ =>
          obtain ⟨hFlag, hRest⟩ := List.forall_mem_cons.mp hFlags
          obtain ⟨hFlag₂, hRest₂⟩ := List.forall_mem_cons.mp hOther
          rw [flagBytes_cons, flagBytes_cons, List.cons.injEq] at hSame
          obtain ⟨rfl, hLeft⟩ := numeral_append_inj hFlag hFlag₂ isDigit_head_flagBytes
            isDigit_head_flagBytes hSame.2
          rw [ih hRest hRest₂ hLeft]

end Flags

end LineMarker

namespace MarkerText

open LineMarker

theorem bytes_eq (text : MarkerText) :
    text.bytes = numberSign :: space :: (text.number ++ space :: quote ::
      (text.name ++ quote :: flagBytes text.flags)) := by
  have hSign : Utf8.encode "# " = [numberSign, space] := by decide +kernel
  have hOpening : Utf8.encode " \"" = [space, quote] := by decide +kernel
  have hClosing : Utf8.encode "\"" = [quote] := by decide +kernel
  have hBlank : Utf8.encode " " = [space] := by decide +kernel
  simp [bytes, hSign, hOpening, hClosing, hBlank, flagBytes]

/-- The text of a marker is taken apart into its number, its name and its flags. -/
theorem parts?_bytes (text : MarkerText) :
    parts? text.bytes = some (value text.number, text.name, text.flags.map value) := by
  have hNumbers := flagNumbers?_flagBytes text.flags_isNumeral length_le_length_flagBytes
  rw [bytes_eq, parts?, if_pos ⟨rfl, rfl⟩,
    takeDigits?_append text.number_isNumeral (isDigit_head_space _)]
  simp [takeName?_append text.name_ne_nil text.quote_notMem, hNumbers, number_eq_value]

theorem exists_of_parts? {line : Bytes} {parts : Nat × Bytes × List Nat}
    (hParts : parts? line = some parts) : ∃ text : MarkerText, text.bytes = line := by
  unfold parts? at hParts
  split at hParts
  next first second afterSign =>
    split_ifs at hParts with hSign
    obtain ⟨⟨number, afterNumber⟩, hNumber, hQuoted⟩ := Option.bind_eq_some_iff.mp hParts
    dsimp only at hQuoted
    split at hQuoted
    next third fourth afterQuote =>
      split_ifs at hQuoted with hQuote
      obtain ⟨⟨name, afterName⟩, hName, hFlags⟩ := Option.bind_eq_some_iff.mp hQuoted
      obtain ⟨numbers, hNumbers, -⟩ := Option.map_eq_some_iff.mp hFlags
      obtain ⟨hNumeral, rfl⟩ := of_takeDigits? hNumber
      obtain ⟨hSome, hFree, rfl⟩ := of_takeName? hName
      obtain ⟨flags, hAll, rfl⟩ := exists_flags_of_flagNumbers? hNumbers
      obtain ⟨rfl, rfl⟩ := hSign
      obtain ⟨rfl, rfl⟩ := hQuote
      let text : MarkerText := ⟨number, name, flags, hNumeral, hSome, hFree, hAll⟩
      exact ⟨text, text.bytes_eq⟩
    next => cases hQuoted
  next => cases hParts

/-- A line has the form of a marker in one way only. -/
theorem bytes_injective : Function.Injective bytes := by
  intro text other hSame
  rw [bytes_eq, bytes_eq, List.cons.injEq, List.cons.injEq] at hSame
  -- Part by part: each ends at the first byte that it cannot have.
  obtain ⟨hNumber, hRest⟩ := numeral_append_inj text.number_isNumeral other.number_isNumeral
    (isDigit_head_space _) (isDigit_head_space _) hSame.2.2
  rw [List.cons.injEq, List.cons.injEq] at hRest
  obtain ⟨hName, hLeft⟩ := name_append_inj text.name_ne_nil text.quote_notMem
    other.name_ne_nil other.quote_notMem hRest.2.2
  have hFlags := flagBytes_injective text.flags_isNumeral other.flags_isNumeral hLeft
  rw [mk.injEq]
  exact ⟨hNumber, hName, hFlags⟩

/-- Every text of a marker is read, as the marker that it describes. -/
theorem exists_describes (text : MarkerText) :
    ∃ marker, ofLine? text.bytes = some marker ∧ text.Describes marker := by
  rw [ofLine?, parts?_bytes]
  refine ⟨_, rfl, rfl, Utf8.decodes_decodeLossy _, Utf8.toByteArray_decodeLossy, ?_, ?_, ?_, ?_⟩ <;>
    simp [MarkerFlags.ofNumbers, eq_comm]

/-- A line that is read as a marker has the form of one. -/
theorem exists_of_ofLine? {line : Bytes} {marker : LineMarker}
    (hLine : ofLine? line = some marker) :
    ∃ text : MarkerText, text.bytes = line ∧ text.Describes marker := by
  obtain ⟨parts, hParts, -⟩ := Option.map_eq_some_iff.mp hLine
  obtain ⟨text, rfl⟩ := exists_of_parts? hParts
  obtain ⟨found, hFound, hDescribes⟩ := text.exists_describes
  obtain rfl : found = marker := Option.some.inj (hFound.symm.trans hLine)
  exact ⟨text, rfl, hDescribes⟩

end MarkerText

/-- The reader takes exactly the lines of the grammar. Each has one form only, and what is read
from it is what the parts of this form describe. -/
theorem LineMarker.ofLine?_reads_grammar :
    (∀ line, (ofLine? line).isSome = true ↔ ∃ text : MarkerText, text.bytes = line) ∧
    Function.Injective MarkerText.bytes ∧
    ∀ text : MarkerText, ∃ marker, ofLine? text.bytes = some marker ∧ text.Describes marker := by
  refine ⟨fun line => ⟨fun hSome => ?_, ?_⟩, MarkerText.bytes_injective,
    MarkerText.exists_describes⟩
  · obtain ⟨marker, hMarker⟩ := Option.isSome_iff_exists.mp hSome
    obtain ⟨text, hText, -⟩ := MarkerText.exists_of_ofLine? hMarker
    exact ⟨text, hText⟩
  · rintro ⟨text, rfl⟩
    obtain ⟨marker, hMarker, -⟩ := text.exists_describes
    exact Option.isSome_iff_exists.mpr ⟨marker, hMarker⟩

/-- Zeros in front, the order of the flags and numbers that are no flag do not matter. A blank at
the end, a second blank and an empty name do. -/
example :
    (LineMarker.ofLine? (Utf8.encode "# 007 \"a.c\" 03 99999999999999999999 1 1") =
      some ⟨7, "a.c", ⟨true, false, true, false⟩⟩) ∧
    ∀ line ∈ ["# 7 \"a.c\" 1 ", "# 7 \"a.c\"  1", "# 7 \"\" 1", "#  7 \"a.c\"", "# 7 \"a.c"],
      LineMarker.ofLine? (Utf8.encode line) = none := by
  decide +kernel

end CallbackWeave

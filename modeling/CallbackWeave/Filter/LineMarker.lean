import CallbackWeave.Number.Literal
import CallbackWeave.Text.Utf8

/-!
Line markers, the lines by which a preprocessor says from which file the text after them comes: a
number sign, a line number, a file name in double quotes and numeric flags, each separated by one
space. Lines are bytes, since preprocessed text need not be UTF-8.
-/

namespace CallbackWeave

/-- What the flags of a marker say. -/
structure MarkerFlags where
  /-- A file begins. -/
  enterFile : Bool
  /-- The text goes back to a file after another one. -/
  returnToPrevious : Bool
  /-- The file is a system header. -/
  systemHeader : Bool
  /-- The text is to be taken as C in any case. -/
  implicitExternC : Bool
deriving DecidableEq, Repr

/-- The flags of some numbers. Numbers that are no flag say nothing. -/
def MarkerFlags.ofNumbers (numbers : List Nat) : MarkerFlags where
  enterFile := numbers.contains 1
  returnToPrevious := numbers.contains 2
  systemHeader := numbers.contains 3
  implicitExternC := numbers.contains 4

/-- A line marker. -/
structure LineMarker where
  /-- The number of the line that follows. -/
  line : Nat
  /-- The file from which the text comes. -/
  file : String
  flags : MarkerFlags
deriving DecidableEq, Repr

namespace LineMarker

/-- The largest line number that is told from greater ones. -/
def lineLimit : Nat := UInt64.size - 1

def space : UInt8 := 0x20
def quote : UInt8 := 0x22
def numberSign : UInt8 := 0x23

/-- A byte that is a decimal digit. -/
def isDigit (b : UInt8) : Bool := 0x30 ≤ b && b ≤ 0x39

/-- The number that decimal digits write. -/
def number (digits : Bytes) : Nat :=
  digits.foldl (fun total b => total * 10 + (b.toNat - 0x30)) 0

/-- Takes digits, of which there has to be one at least, off the front of bytes. -/
def takeDigits? (bytes : Bytes) : Option (Bytes × Bytes) :=
  let digits := bytes.takeWhile isDigit
  if digits.isEmpty then none else some (digits, bytes.dropWhile isDigit)

/-- The numbers of the flags that end a marker. `fuel` bounds their number. -/
def flagNumbers? : Nat → Bytes → Option (List Nat)
  | _, [] => some []
  | 0, _ :: _ => none
  | fuel + 1, b :: rest =>
    if b = space then
      (takeDigits? rest).bind fun (digits, rest) =>
        (flagNumbers? fuel rest).map (number digits :: ·)
    else none

/-- Takes a name up to the quote that ends it. The name is not empty. -/
def takeName? (bytes : Bytes) : Option (Bytes × Bytes) :=
  match bytes.takeWhile (· ≠ quote), bytes.dropWhile (· ≠ quote) with
  | b :: name, _ :: rest => some (b :: name, rest)
  | _, _ => none

/-- The parts of a line that is a marker: the line number, the bytes of the name and the numbers
of the flags. -/
def parts? : Bytes → Option (Nat × Bytes × List Nat)
  | b₁ :: b₂ :: rest =>
    if b₁ = numberSign ∧ b₂ = space then
      (takeDigits? rest).bind fun (digits, rest) =>
        match rest with
        | b₃ :: b₄ :: rest =>
          if b₃ = space ∧ b₄ = quote then
            (takeName? rest).bind fun (name, rest) =>
              (flagNumbers? rest.length rest).map fun numbers => (number digits, name, numbers)
          else none
        | _ => none
    else none
  | _ => none

/-- Reads a line as a marker; any other line is ordinary text. -/
def ofLine? (bytes : Bytes) : Option LineMarker :=
  (parts? bytes).map fun (line, name, numbers) =>
    ⟨min line lineLimit, Utf8.decodeLossy name, .ofNumbers numbers⟩

end LineMarker

end CallbackWeave

import CallbackWeave.Path.Basic
import CallbackWeave.Text.Utf8

/-!
Text as programs handle it: octets, of which nobody has to know what characters they write. Each
octet stands as the character of its number, so that texts of letters, digits and signs can be
written down as they are.
-/

namespace CallbackWeave

/-- A text as octets. -/
abbrev Octets := List Char

namespace Octets

/-- The octets of bytes. -/
def ofBytes (bytes : Bytes) : Octets := bytes.map fun b => Char.ofNat b.toNat

/-- The bytes of octets. -/
def toBytes (octets : Octets) : Bytes := octets.map fun c => c.toNat.toUInt8

/-- The octets that write a text. -/
def ofText (text : String) : Octets := ofBytes (Utf8.encode text)

/-- The text that octets write. -/
def toText (octets : Octets) : String := Utf8.decodeLossy (toBytes octets)

/-- The path that octets write. -/
def toPath (octets : Octets) : Path := ⟨toText octets⟩

/-- The lines of a text, each with its line feed; the last one may have none. -/
def lines : Octets → List Octets
  | [] => []
  | c :: rest =>
    if c = '\n' then ['\n'] :: lines rest
    else
      match lines rest with
      | [] => [[c]]
      | line :: more => (c :: line) :: more

/-- A line without its line feed. -/
def chomp (line : Octets) : Octets :=
  match line.reverse with
  | '\n' :: rest => rest.reverse
  | _ => line

/-- Whether one text comes before another or is equal to it, octet by octet. -/
def precedes : Octets → Octets → Bool
  | [], _ => true
  | _ :: _, [] => false
  | a :: rest, b :: others => a < b || a = b && precedes rest others

/-- Pads a text on the left to a width. -/
def padLeft (width : Nat) (fill : Char) (text : Octets) : Octets :=
  List.replicate (width - text.length) fill ++ text

/-- Pads a text on the right to a width. -/
def padRight (width : Nat) (text : Octets) : Octets :=
  text ++ List.replicate (width - text.length) ' '

/-- The digits of a number. -/
def ofNat (n : Nat) : Octets := Nat.toDigits 10 n

/-- An integer with its sign. -/
def ofInt (n : Int) : Octets := if n < 0 then '-' :: ofNat n.natAbs else ofNat n.natAbs

/-- A text up to the first separator, and what follows the separator if there is one. -/
def splitAt (separator : Char) (text : Octets) : Octets × Option Octets :=
  let front := text.takeWhile (· ≠ separator)
  match text.drop front.length with
  | _ :: rest => (front, some rest)
  | [] => (front, none)

end Octets

end CallbackWeave

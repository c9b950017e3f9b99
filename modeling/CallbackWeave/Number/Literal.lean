/-!
Decimal literals. `Literal.ofChars?` reads a sign, digits with an optional point among them and
an optional exponent; `Literal.toFloat` gives the floating-point number nearest to a literal.
-/

namespace CallbackWeave.Number

/-- The value of a digit in bases up to sixteen. -/
def digitValue? (base : Nat) (c : Char) : Option Nat :=
  let value :=
    if '0' ≤ c ∧ c ≤ '9' then c.toNat - '0'.toNat
    else if 'a' ≤ c ∧ c ≤ 'f' then c.toNat - 'a'.toNat + 10
    else if 'A' ≤ c ∧ c ≤ 'F' then c.toNat - 'A'.toNat + 10
    else 16
  if value < base then some value else none

/-- The number written by the digits of a base; `none` for no digits and for anything else. -/
def natOfDigits? (base : Nat) (digits : List Char) : Option Nat :=
  if digits.isEmpty then none
  else digits.foldlM (fun total c => (digitValue? base c).map (total * base + ·)) 0

/-- The number written by characters that are known to be decimal digits. -/
def natOfDecimals (digits : List Char) : Nat :=
  digits.foldl (fun total c => total * 10 + (c.toNat - '0'.toNat)) 0

/-- A decimal literal: `digits * 10 ^ exponent` with its sign. -/
structure Literal where
  negative : Bool
  digits : Nat
  exponent : Int
deriving DecidableEq, Repr

/-- Takes a sign off the front of a text. -/
def splitSign : List Char → Bool × List Char
  | '-' :: rest => (true, rest)
  | '+' :: rest => (false, rest)
  | text => (false, text)

/-- Reads the exponent part of a literal, which may be absent. -/
def readExponent? : List Char → Option Int
  | [] => some 0
  | mark :: rest =>
    if mark = 'e' ∨ mark = 'E' then
      let (negative, digits) := splitSign rest
      (natOfDigits? 10 digits).map fun n => if negative then -(n : Int) else n
    else none

/-- Reads a decimal literal. The digits may have a point before, among or after them, but there
is at least one digit. -/
def Literal.ofChars? (text : List Char) : Option Literal :=
  let (negative, unsigned) := splitSign text
  let whole := unsigned.takeWhile Char.isDigit
  let (fraction, rest) := match unsigned.dropWhile Char.isDigit with
    | '.' :: more => (more.takeWhile Char.isDigit, more.dropWhile Char.isDigit)
    | more => ([], more)
  if whole.isEmpty ∧ fraction.isEmpty then none
  else (readExponent? rest).map fun exponent =>
    ⟨negative, natOfDecimals (whole ++ fraction), exponent - fraction.length⟩

/-- The floating-point number nearest to a literal. Literals beyond the finite range give an
infinity, and those too small to be told from zero give zero. -/
def Literal.toFloat (literal : Literal) : Float :=
  let size := (Nat.toDigits 10 literal.digits).length + literal.exponent
  let magnitude : Float :=
    if literal.digits = 0 ∨ size < -400 then 0.0
    else if size > 400 then 1.0 / 0.0
    else Float.ofScientific literal.digits (literal.exponent < 0) literal.exponent.natAbs
  if literal.negative then -magnitude else magnitude

end CallbackWeave.Number

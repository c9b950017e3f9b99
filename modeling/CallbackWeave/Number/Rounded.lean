import CallbackWeave.Number.Literal
import CallbackWeave.Number.Shortest

/-!
Floating-point numbers written with a given number of digits. The digits are those of the exact value
rounded to nearest, and a half goes to the even neighbour.
-/

namespace CallbackWeave.Number

/-- A quotient rounded to nearest; a half goes to the even neighbour. -/
def roundQuotient (dividend divisor : Nat) : Nat :=
  let below := dividend / divisor
  let twice := 2 * (dividend % divisor)
  if twice < divisor then below
  else if divisor < twice then below + 1
  else if below % 2 = 0 then below else below + 1

/-- The multiple of a power of ten that is nearest to the number. -/
def Binary.nearest (b : Binary) (power : Int) : Nat :=
  let (quarter, unit) := b.quarterOver power
  roundQuotient (4 * b.mantissa * quarter) unit

/-- The digits of a number rounded to a count of digits, and the power of ten of the first one. -/
def Binary.leading (b : Binary) (count : Nat) : List Char × Int :=
  let top := b.leadingPower
  let digits := Nat.toDigits 10 (b.nearest (top - (count - 1 : Nat)))
  if digits.length > count then (digits.take count, top + 1) else (digits, top)

/-- Digits with leading zeros, so that there are at least so many. -/
def padded (count : Nat) (digits : List Char) : List Char :=
  List.replicate (count - digits.length) '0' ++ digits

/-- How the digits of a number are laid out. -/
inductive DigitStyle where
  /-- With a count of places behind the point. -/
  | positional
  /-- With an exponent, behind one digit and a count of places. -/
  | exponential
  /-- With a count of digits, and an exponent if that is shorter. -/
  | general
deriving DecidableEq, Repr

/-- A fraction behind its point, which is left out with an empty fraction unless it is kept. -/
def pointed (keepsPoint : Bool) (fraction : List Char) : List Char :=
  if fraction.isEmpty && !keepsPoint then [] else '.' :: fraction

/-- Digits with an exponent of at least two digits. -/
def withExponent (keepsPoint : Bool) (digits : List Char) (power : Int) : List Char :=
  digits.take 1 ++ pointed keepsPoint (digits.drop 1)
    ++ 'e' :: (if power < 0 then '-' else '+') :: padded 2 (Nat.toDigits 10 power.natAbs)

/-- Digits without the zeros at their end. -/
def stripped (digits : List Char) : List Char := (digits.reverse.dropWhile (· = '0')).reverse

/-- A magnitude with a count of places or digits. With `isFull` no zeros and no point are dropped. -/
def Binary.write (b : Binary) (layout : DigitStyle) (count : Nat) (isFull : Bool) : List Char :=
  match layout with
  | .positional =>
    let digits := padded (count + 1) (Nat.toDigits 10 (b.nearest (-(count : Int))))
    let whole := digits.length - count
    digits.take whole ++ pointed isFull (digits.drop whole)
  | .exponential =>
    let (digits, power) := if b.mantissa = 0 then (List.replicate (count + 1) '0', 0)
      else b.leading (count + 1)
    withExponent isFull digits power
  | .general =>
    let count := max count 1
    let (digits, power) := if b.mantissa = 0 then (List.replicate count '0', 0) else b.leading count
    if power < -4 || power ≥ count then
      withExponent isFull (digits.take 1 ++ if isFull then digits.drop 1 else stripped (digits.drop 1))
        power
    else
      let (whole, fraction) := if power < 0 then
          (['0'], List.replicate (-power - 1).toNat '0' ++ digits)
        else (digits.take (power.toNat + 1), digits.drop (power.toNat + 1))
      whole ++ pointed isFull (if isFull then fraction else stripped fraction)

/-- The sign of a number, and what is written behind it. -/
def written (x : Float) (layout : DigitStyle) (count : Nat) (isFull : Bool) : Bool × List Char :=
  let bits := x.toBits.toNat
  (bits ≥ signSize,
    if x.isNaN then "nan".toList
    else if x.isInf then "inf".toList
    else (Binary.ofBits bits).write layout count isFull)

end CallbackWeave.Number

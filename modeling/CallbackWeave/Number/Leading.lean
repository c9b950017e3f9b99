import CallbackWeave.Number.Literal
import CallbackWeave.Number.Shortest

/-!
Numbers at the beginning of a text, and what arithmetic needs besides: whole numbers among the
floating-point numbers, and remainders.
-/

namespace CallbackWeave.Number

/-- A blank in front of a number. -/
def isSpace (c : Char) : Bool := c = ' ' || '\t' ≤ c && c ≤ '\r'

/-- The length of an exponent at the beginning of a text, which has at least one digit. -/
def exponentLength (text : List Char) : Nat :=
  match text with
  | mark :: rest =>
    if mark = 'e' || mark = 'E' then
      let digits := (splitSign rest).2
      let count := (digits.takeWhile Char.isDigit).length
      if count = 0 then 0 else 1 + (rest.length - digits.length) + count
    else 0
  | [] => 0

/-- The length of a decimal literal without sign at the beginning of a text. -/
def literalLength (text : List Char) : Nat :=
  let whole := (text.takeWhile Char.isDigit).length
  let fraction := match text.drop whole with
    | '.' :: rest => 1 + (rest.takeWhile Char.isDigit).length
    | _ => 0
  if whole = 0 && fraction ≤ 1 then 0
  else whole + fraction + exponentLength (text.drop (whole + fraction))

/-- The number that stands at the beginning of a text, and what follows it. Blanks may stand before it;
hexadecimal digits and the names of an infinity and of what is no number count too. -/
def leading? (text : List Char) : Option (Float × List Char) :=
  let (negative, body) := splitSign (text.dropWhile isSpace)
  let signed (x : Float) : Float := if negative then -x else x
  let lower := String.ofList ((body.take 8).map Char.toLower)
  let digits := match body with
    | '0' :: x :: rest =>
      if x = 'x' || x = 'X' then rest.takeWhile fun c => (digitValue? 16 c).isSome else []
    | _ => []
  match natOfDigits? 16 digits with
  | some n => some (signed (Float.ofNat n), body.drop (2 + digits.length))
  | none =>
    if lower.startsWith "infinity" then some (signed (1.0 / 0.0), body.drop 8)
    else if lower.startsWith "inf" then some (signed (1.0 / 0.0), body.drop 3)
    else if lower.startsWith "nan" then some (signed (0.0 / 0.0), body.drop 3)
    else
      let length := literalLength body
      (Literal.ofChars? (body.take length)).map fun literal =>
        (signed literal.toFloat, body.drop length)

/-- The number that a text writes as a decimal literal, with blanks around it. -/
def wholeText? (text : List Char) : Option Float :=
  let (negative, body) := splitSign (text.dropWhile isSpace)
  let length := literalLength body
  if (body.drop length).all isSpace then
    (Literal.ofChars? (body.take length)).map fun literal =>
      if negative then -literal.toFloat else literal.toFloat
  else none

/-- The value of a number without its fraction; nothing for infinities and for what is no number. -/
def truncated? (x : Float) : Option Int :=
  if x.isNaN || x.isInf then none
  else
    let bits := x.toBits.toNat
    let b := Binary.ofBits bits
    let magnitude : Int :=
      if b.exponent ≥ 0 then (b.mantissa * Nat.pow 2 b.exponent.toNat : Nat)
      else (b.mantissa / Nat.pow 2 (-b.exponent).toNat : Nat)
    some (if bits ≥ signSize then -magnitude else magnitude)

/-- The whole number that a number is. -/
def whole? (x : Float) : Option Int := (truncated? x).filter fun n => Float.ofInt n == x

/-- What is left of a number when another one has been taken from it as often as possible. The sign is
that of the number. -/
def remainder (x y : Float) : Float :=
  if x.isNaN || y.isNaN || x.isInf || y == 0.0 then 0.0 / 0.0
  else if y.isInf then x
  else
    let a := Binary.ofBits x.toBits.toNat
    let b := Binary.ofBits y.toBits.toNat
    let unit := min a.exponent b.exponent
    let left := a.mantissa * Nat.pow 2 (a.exponent - unit).toNat
      % (b.mantissa * Nat.pow 2 (b.exponent - unit).toNat)
    let size := (Float.ofNat left).scaleB unit
    if x.toBits.toNat ≥ signSize then -size else size

end CallbackWeave.Number

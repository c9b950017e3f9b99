import CallbackWeave.Number.Rounded

/-!
Directives of formats: a percent sign, flags, a width, a precision and a letter that says how a value
is written. `Directive.text`, `Directive.integer` and `Directive.float` write values.
-/

namespace CallbackWeave.Text

/-- A width or a precision as it stands in a format. -/
inductive Extent where
  | absent
  | given (size : Nat)
  /-- It is taken from the arguments. -/
  | argument
deriving DecidableEq, Repr

/-- A directive. -/
structure Directive where
  minus : Bool
  plus : Bool
  space : Bool
  alternate : Bool
  zero : Bool
  width : Nat
  precision : Option Nat
  letter : Char
deriving DecidableEq, Repr

namespace Directive

/-- A directive of a letter alone. -/
def plain (letter : Char) : Directive := ⟨false, false, false, false, false, 0, none, letter⟩

/-- A directive with the width that an argument gives; a negative one asks for the left side. -/
def withWidth (d : Directive) (width : Int) : Directive :=
  { d with width := width.natAbs, minus := d.minus || width < 0 }

/-- A directive with the precision that an argument gives, unless it is negative. -/
def withPrecision (d : Directive) (precision : Int) : Directive :=
  { d with precision := if precision < 0 then none else some precision.natAbs }

/-- Takes a width or a precision off the front of a format. -/
def readExtent (otherwise : Extent) : List Char → Extent × List Char
  | '*' :: rest => (.argument, rest)
  | text =>
    let digits := text.takeWhile Char.isDigit
    (if digits.isEmpty then otherwise else .given (Number.natOfDecimals digits),
      text.drop digits.length)

/-- Takes what stands between the percent sign and the letter: a directive still without letter, and
the width and the precision as they are written. -/
def read (text : List Char) : Directive × Extent × Extent × List Char :=
  let isFlag (c : Char) : Bool := "-+ #0".toList.contains c
  let flags := text.takeWhile isFlag
  let (width, rest) := readExtent .absent (text.drop flags.length)
  let (precision, rest) := match rest with
    | '.' :: rest => readExtent (.given 0) rest
    | rest => (.absent, rest)
  let size : Extent → Option Nat
    | .given n => some n
    | _ => none
  (⟨flags.contains '-', flags.contains '+', flags.contains ' ', flags.contains '#',
    flags.contains '0', (size width).getD 0, size precision, ' '⟩, width, precision, rest)

/-- Fills up to the width: with zeros behind the sign, or with blanks. -/
def fill (d : Directive) (zeros : Bool) (sign body : List Char) : List Char :=
  let missing := d.width - (sign.length + body.length)
  if d.minus then sign ++ body ++ List.replicate missing ' '
  else if zeros then sign ++ List.replicate missing '0' ++ body
  else List.replicate missing ' ' ++ sign ++ body

/-- The sign that is written in front of a magnitude. -/
def signOf (d : Directive) (negative : Bool) : List Char :=
  if negative then ['-'] else if d.plus then ['+'] else if d.space then [' '] else []

/-- A text, cut to the precision. -/
def text (d : Directive) (value : List Char) : List Char :=
  d.fill false [] (match d.precision with
    | some n => value.take n
    | none => value)

/-- Letters of a directive as large ones. -/
def raised (text : List Char) : List Char := text.map Char.toUpper

/-- An integer of sixty-four bits. -/
def integer (d : Directive) (value : Int) : List Char :=
  let unsigned := (value % Int.pow 2 64).toNat
  let (sign, mark, digits) := match d.letter with
    | 'o' => ([], [], Nat.toDigits 8 unsigned)
    | 'x' => ([], if unsigned = 0 then [] else "0x".toList, Nat.toDigits 16 unsigned)
    | 'X' => ([], if unsigned = 0 then [] else "0X".toList, raised (Nat.toDigits 16 unsigned))
    | 'u' => ([], [], Nat.toDigits 10 unsigned)
    | _ => (d.signOf (value < 0), [], Nat.toDigits 10 value.natAbs)
  let digits := if d.precision = some 0 ∧ value = 0 then [] else digits
  let digits := Number.padded (d.precision.getD 1) digits
  let digits := if d.letter = 'o' && d.alternate && digits.head? ≠ some '0' then '0' :: digits
    else digits
  d.fill (d.zero && d.precision.isNone) (sign ++ if d.alternate then mark else []) digits

/-- A floating-point number. -/
def float (d : Directive) (value : Float) : List Char :=
  let style : Number.DigitStyle := match d.letter.toLower with
    | 'f' => .positional
    | 'e' => .exponential
    | _ => .general
  let (negative, body) := Number.written value style (d.precision.getD 6) d.alternate
  let isFinite := !(value.isNaN || value.isInf)
  d.fill (d.zero && isFinite) (d.signOf negative) (if d.letter.isUpper then raised body else body)

end Directive

end CallbackWeave.Text

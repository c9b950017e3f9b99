/-!
The shortest decimal that denotes a binary floating-point number. Every decimal in the interval
of reals that round to the number denotes it; `shortest` takes the coarsest decimal grid that has
a point in that interval and, of the points of that grid, the one nearest to the number. Which of
two points is taken that are equally near is for the layout of the text to say.
-/

namespace CallbackWeave.Number

/-- A positive decimal: `digits` scaled by a power of ten. -/
structure Decimal where
  digits : Nat
  exponent : Int
deriving DecidableEq, Repr

/-- A positive finite number `mantissa * 2 ^ exponent`; `thin` says that the neighbour below is
only half as far away as the one above. -/
structure Binary where
  mantissa : Nat
  exponent : Int
  thin : Bool
deriving DecidableEq, Repr

/-- The weight of the bits above those of the mantissa. -/
def mantissaSize : Nat := 0x10000000000000

/-- The weight of the sign. -/
def signSize : Nat := 0x8000000000000000

/-- The magnitude of a finite number from its bit pattern. -/
def Binary.ofBits (bits : Nat) : Binary :=
  let fraction := bits % mantissaSize
  let scale : Nat := bits / mantissaSize % 2048
  if scale = 0 then ⟨fraction, -1074, false⟩
  else ⟨mantissaSize + fraction, (scale : Int) - 1075, fraction = 0 && scale > 1⟩

/-- A quarter of the binary unit over a power of ten, as a fraction. -/
def Binary.quarterOver (b : Binary) (power : Int) : Nat × Nat :=
  let twos := b.exponent - 2
  (Nat.pow 2 twos.toNat * Nat.pow 10 (-power).toNat,
    Nat.pow 2 (-twos).toNat * Nat.pow 10 power.toNat)

/-- Whether `point * 10 ^ power` rounds to the number: the ends of the interval belong to it when
the mantissa is even. -/
def Binary.covers (b : Binary) (power : Int) (point : Nat) : Bool :=
  let (quarter, unit) := b.quarterOver power
  let low := (4 * b.mantissa - if b.thin then 1 else 2) * quarter
  let high := (4 * b.mantissa + 2) * quarter
  if b.mantissa % 2 = 0 then low ≤ point * unit && point * unit ≤ high
  else low < point * unit && point * unit < high

/-- Which of two neighbours on a grid stands for the number halfway between them. -/
inductive TieRule where
  | toEven
  | up
deriving DecidableEq, Repr

/-- Whether the lower one of two neighbours is taken. -/
def TieRule.takesLower (rule : TieRule) (below : Nat) : Bool :=
  match rule with
  | toEven => below % 2 = 0
  | up => false

/-- The point of the grid of `10 ^ power` that denotes the number and is nearest to it. -/
def Binary.onGrid (b : Binary) (ties : TieRule) (power : Int) : Option Nat :=
  let (quarter, unit) := b.quarterOver power
  let value := 4 * b.mantissa * quarter
  let below := value / unit
  let middle := (2 * below + 1) * unit
  match b.covers power below, b.covers power (below + 1) with
  | true, true =>
    some (if 2 * value < middle || 2 * value = middle && ties.takesLower below then below
      else below + 1)
  | true, false => some below
  | false, true => some (below + 1)
  | false, false => none

/-- The greatest power of ten that does not exceed the number, among those a finite number can
reach. -/
def Binary.leadingPower (b : Binary) : Int :=
  let reached (power : Int) : Bool :=
    let (quarter, unit) := b.quarterOver power
    unit ≤ 4 * b.mantissa * quarter
  match (List.range 633).find? fun (down : Nat) => reached (308 - (down : Int)) with
  | some down => 308 - (down : Int)
  | none => -324

/-- The shortest decimal that denotes a positive finite number. -/
def Binary.shortest (b : Binary) (ties : TieRule) : Decimal :=
  let top := b.leadingPower
  let found := (List.range 17).findSome? fun (places : Nat) =>
    (b.onGrid ties (top - places)).bind fun point =>
      if point = 0 then none else some (⟨point, top - places⟩ : Decimal)
  found.getD ⟨b.mantissa, b.exponent⟩

/-- The digits of a decimal without the zeros at its end, and the power of ten of the first. -/
def Decimal.scientific (d : Decimal) : List Char × Int :=
  let digits := Nat.toDigits 10 d.digits
  ((digits.reverse.dropWhile (· = '0')).reverse, d.exponent + digits.length - 1)

/-- How a floating-point number is written. -/
structure Layout where
  /-- The powers of ten of the first digit for which no exponent is written; `none` means that
  an exponent is never written. -/
  positional : Option (Int × Int)
  ties : TieRule

/-- Digits with the decimal point after the digit whose power of ten is zero. -/
def positionalText (digits : List Char) (power : Int) : List Char :=
  if power < 0 then
    '0' :: '.' :: List.replicate (-power - 1).toNat '0' ++ digits
  else
    let whole := power.toNat + 1
    if digits.length ≤ whole then
      digits ++ List.replicate (whole - digits.length) '0' ++ ['.', '0']
    else digits.take whole ++ '.' :: digits.drop whole

/-- Digits with the point after the first one, and a signed exponent. -/
def exponentText (digits : List Char) (power : Int) : List Char :=
  let mantissa := match digits with
    | first :: second :: rest => first :: '.' :: second :: rest
    | short => short
  mantissa ++ 'e' :: (if power < 0 then '-' else '+') :: Nat.toDigits 10 power.natAbs

/-- The text of a floating-point number. -/
def Layout.text (layout : Layout) (x : Float) : String :=
  let bits := x.toBits.toNat
  let sign := if bits ≥ signSize then "-" else ""
  if x.isNaN then "NaN"
  else if x.isInf then sign ++ "inf"
  else if bits % signSize = 0 then sign ++ "0.0"
  else
    let (digits, power) := ((Binary.ofBits bits).shortest layout.ties).scientific
    let plain := match layout.positional with
      | none => true
      | some (least, greatest) => least ≤ power && power ≤ greatest
    sign ++ String.ofList (if plain then positionalText digits power
      else exponentText digits power)

end CallbackWeave.Number

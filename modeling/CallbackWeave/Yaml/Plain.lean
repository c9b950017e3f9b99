import CallbackWeave.Number.Shortest
import CallbackWeave.Text.Quoted
import CallbackWeave.Yaml.Node

/-!
What scalars stand for when they are not asked for as text. A plain scalar may stand for nothing,
a truth value or a number; a tag may ask for one of these.
-/

namespace CallbackWeave.Yaml

/-- What a scalar stands for. -/
inductive Value where
  | nothing
  | boolean (value : Bool)
  | integer (value : Int)
  | real (value : Float)
  | text (value : String)

/-- Floating-point numbers never have an exponent, and a tie between two texts goes up. -/
def realLayout : Number.Layout := ⟨none, .up⟩

/-- The type that an integer needs beyond those of 64 bits. -/
def widthNote (value : Int) : String :=
  if value ≥ (UInt64.size : Int) then " as u128"
  else if value < -(UInt64.size / 2 : Nat) then " as i128"
  else ""

/-- How a value is named. -/
def Value.describe : Value → String
  | nothing => "unit value"
  | boolean value => "boolean `" ++ toString value ++ "`"
  | integer value => "integer `" ++ toString value ++ "`" ++ widthNote value
  | real value => "floating point `" ++ realLayout.text value ++ "`"
  | text value => "string " ++ Text.quoted value

/-- The spellings of nothing, besides leaving it out. -/
def isNull (text : String) : Bool := ["null", "Null", "NULL", "~"].contains text

/-- A truth value. -/
def boolean? (text : String) : Option Bool :=
  if ["true", "True", "TRUE"].contains text then some true
  else if ["false", "False", "FALSE"].contains text then some false
  else none

/-- The letters that stand for a base after a zero. -/
def bases : List (Char × Nat) := [('x', 16), ('o', 8), ('b', 2)]

/-- Digits that begin with a zero but are more than it are no number. -/
def isPadded (text : List Char) : Bool :=
  match (Number.splitSign text).2 with
  | '0' :: c :: rest => (c :: rest).all Char.isDigit
  | _ => false

/-- The number written by digits in the base that a letter asks for. -/
def inBase? : List Char → Option Nat
  | '0' :: letter :: digits =>
    (bases.lookup letter).bind fun base => Number.natOfDigits? base digits
  | _ => none

/-- An integer that is not negative. -/
def natural? (text : List Char) : Option Nat :=
  let digits := match text with
    | '+' :: rest => rest
    | text => text
  match inBase? digits with
  | some n => some n
  | none => if isPadded text then none else Number.natOfDigits? 10 digits

/-- A negative integer. -/
def negative? : List Char → Option Nat
  | '-' :: digits =>
    match inBase? digits with
    | some n => some n
    | none => if isPadded digits then none else Number.natOfDigits? 10 digits
  | _ => none

/-- An integer of 128 bits. -/
def integer? (text : String) : Option Int :=
  match natural? text.toList, negative? text.toList with
  | some n, _ => if n < UInt64.size * UInt64.size then some n else none
  | none, some n => if n ≤ UInt64.size * (UInt64.size / 2) then some (-n) else none
  | none, none => none

/-- A floating-point number. Decimals beyond the finite range are none. -/
def real? (text : String) : Option Float :=
  let unsigned := match text.toList with
    | '+' :: rest => rest
    | text => text
  if text.startsWith "++" || text.startsWith "+-" then none
  else if [".inf", ".Inf", ".INF"].contains (String.ofList unsigned) then some (1.0 / 0.0)
  else if ["-.inf", "-.Inf", "-.INF"].contains text then some (-1.0 / 0.0)
  else if [".nan", ".NaN", ".NAN"].contains text then some (0.0 / 0.0)
  else
    (Number.Literal.ofChars? unsigned).bind fun literal =>
      let x := literal.toFloat
      if x.isInf then none else some x

/-- What a plain scalar stands for. -/
def plainValue (text : String) : Value :=
  if text.isEmpty || isNull text then .nothing
  else
    match boolean? text, integer? text with
    | some b, _ => .boolean b
    | none, some n => .integer n
    | none, none =>
      if isPadded text.toList then .text text
      else
        match real? text with
        | some x => .real x
        | none => .text text

/-- The tags of the values that are not text. -/
def coreTag (name : String) : String := "tag:yaml.org,2002:" ++ name

/-- What a scalar with a tag of the format stands for; `none` for other tags. A scalar that is not
of the kind that its tag asks for gives that kind. -/
def taggedValue? (tag text : String) : Option (Except String Value) :=
  let given (kind : String) (value : Option Value) : Option (Except String Value) :=
    some (match value with
      | some v => .ok v
      | none => .error kind)
  if tag = coreTag "bool" then given "a boolean" ((boolean? text).map .boolean)
  else if tag = coreTag "int" then given "an integer" ((integer? text).map .integer)
  else if tag = coreTag "float" then given "a float" ((real? text).map .real)
  else if tag = coreTag "null" then given "null" (if isNull text then some .nothing else none)
  else none

/-- What a scalar stands for, by its tag or its form. -/
def scalarValue (tag : Option String) (text : String) (style : Style) : Except String Value :=
  match tag with
  | none => .ok (if style = .plain then plainValue text else .text text)
  | some tag =>
    match taggedValue? tag text with
    | some value => value
    | none => .ok (if style = .plain ∧ tag.startsWith "!" then plainValue text else .text text)

/-- What is wrong with a node that stands where something else was expected. -/
def Node.misfit (node : Node) (expected : String) : String :=
  let invalidType (found : String) : String :=
    "invalid type: " ++ found ++ ", expected " ++ expected
  match node with
  | .sequence _ _ _ => invalidType "sequence"
  | .mapping _ _ _ => invalidType "map"
  | .scalar _ _ tag text style =>
    match scalarValue tag text style with
    | .ok value => invalidType value.describe
    | .error kind => "invalid value: string " ++ Text.quoted text ++ ", expected " ++ kind
  | .reference _ _ | .cut => invalidType "nothing"

/-- The truth value of a node. It is written plainly, or as a literal block with its tag. -/
def Node.boolean? : Node → Option Bool
  | .scalar _ _ tag text style =>
    if style = .plain ∨ (style = .literal ∧ tag = some (coreTag "bool")) then Yaml.boolean? text
    else none
  | _ => none

end CallbackWeave.Yaml

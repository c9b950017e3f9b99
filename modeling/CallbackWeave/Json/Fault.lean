import CallbackWeave.Number.Shortest
import CallbackWeave.Text.Quoted

/-!
Faults of JSON texts: what is wrong, and where. A fault keeps the part of the text that was not
yet consumed when it was noticed; line and column follow from the part before it. Lines count
from one and columns count the bytes since the last line feed.
-/

namespace CallbackWeave.Json

/-- A value that stands where another kind of value was asked for. -/
inductive Found where
  | null
  | boolean (value : Bool)
  | integer (value : Int)
  | real (value : Float)
  | text (value : String)
  | list
  | object

/-- Floating-point numbers have an exponent below a hundred thousandth and from ten quadrillions on,
and a tie between two texts goes to the even last digit. -/
def realLayout : Number.Layout := ⟨some (-5, 15), .toEven⟩

/-- How a misplaced value is named. -/
def Found.describe : Found → String
  | null => "null"
  | boolean value => "boolean `" ++ toString value ++ "`"
  | integer value => "integer `" ++ toString value ++ "`"
  | real value => "floating point `" ++ realLayout.text value ++ "`"
  | text value => "string " ++ Text.quoted value
  | list => "sequence"
  | object => "map"

/-- What is wrong with a text. -/
inductive Problem where
  | endInValue
  | endInList
  | endInObject
  | endInString
  | expectedColon
  | expectedListEnd
  | expectedObjectEnd
  | expectedLiteral
  | expectedValue
  | invalidEscape
  | invalidNumber
  | numberOutOfRange
  | controlCharacter
  | keyNotString
  | loneSurrogate
  | trailingComma
  | trailingText
  | unpairedSurrogate
  | misplaced (found : Found) (expected : String)
  | missingField (name : String)
  | repeatedField (name : String)
  | wrongLength (length : Nat) (expected : String)

/-- The wording of a problem. -/
def Problem.message : Problem → String
  | endInValue => "EOF while parsing a value"
  | endInList => "EOF while parsing a list"
  | endInObject => "EOF while parsing an object"
  | endInString => "EOF while parsing a string"
  | expectedColon => "expected `:`"
  | expectedListEnd => "expected `,` or `]`"
  | expectedObjectEnd => "expected `,` or `\x7d`"
  | expectedLiteral => "expected ident"
  | expectedValue => "expected value"
  | invalidEscape => "invalid escape"
  | invalidNumber => "invalid number"
  | numberOutOfRange => "number out of range"
  | controlCharacter => "control character (\\u0000-\\u001F) found while parsing a string"
  | keyNotString => "key must be a string"
  | loneSurrogate => "lone leading surrogate in hex escape"
  | trailingComma => "trailing comma"
  | trailingText => "trailing characters"
  | unpairedSurrogate => "unexpected end of hex escape"
  | misplaced found expected => "invalid type: " ++ found.describe ++ ", expected " ++ expected
  | missingField name => "missing field `" ++ name ++ "`"
  | repeatedField name => "duplicate field `" ++ name ++ "`"
  | wrongLength length expected =>
    "invalid length " ++ toString length ++ ", expected " ++ expected

/-- A problem, the text that was left when it was noticed, and how many bytes of that text belong
to the place that is reported. -/
structure Fault where
  problem : Problem
  rest : List Char
  bytes : Nat

/-- A problem right where the rest of the text begins. -/
def Fault.before (problem : Problem) (rest : List Char) : Fault := ⟨problem, rest, 0⟩

/-- A problem with the first byte of the rest of the text. -/
def Fault.at (problem : Problem) (rest : List Char) : Fault := ⟨problem, rest, 1⟩

/-- A place in a text. -/
structure Position where
  line : Nat
  column : Nat
deriving DecidableEq, Repr

/-- The place after one character more. -/
def Position.after (p : Position) (c : Char) : Position :=
  if c = '\n' then ⟨p.line + 1, 0⟩ else ⟨p.line, p.column + c.utf8Size⟩

/-- The place a number of bytes further on, or at the end of the text if that comes first. -/
def Position.ahead (p : Position) : Nat → List Char → Position
  | 0, _ => p
  | _, [] => p
  | bytes + 1, c :: rest =>
    if c.utf8Size ≤ bytes + 1 then (p.after c).ahead (bytes + 1 - c.utf8Size) rest
    else ⟨p.line, p.column + bytes + 1⟩
termination_by _ text => text.length

/-- Where in a text a fault lies. -/
def Fault.position (text : List Char) (fault : Fault) : Position :=
  let consumed := text.take (text.length - fault.rest.length)
  (consumed.foldl Position.after ⟨1, 0⟩).ahead fault.bytes fault.rest

/-- The text of a fault. -/
def Fault.message (text : List Char) (fault : Fault) : String :=
  let position := fault.position text
  fault.problem.message ++ " at line " ++ toString position.line ++ " column "
    ++ toString position.column

end CallbackWeave.Json

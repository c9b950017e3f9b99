import CallbackWeave.Json.Fault
import CallbackWeave.Number.Literal

/-!
Readers of JSON. A reader takes a value off the front of a text and gives it with the rest, or a
fault. Values are read as what is asked for: there is no tree of values in between, so that of
two faults the one that stands first in the text is reported.
-/

namespace CallbackWeave.Json

/-- Takes a value off the front of a text. -/
abbrev Reader (α : Type) := List Char → Except Fault (α × List Char)

/-- A character that may stand between the parts of a text. -/
def isSpace (c : Char) : Bool := c = ' ' || c = '\n' || c = '\t' || c = '\r'

/-- A text from its first part on. -/
def skipSpace (text : List Char) : List Char := text.dropWhile isSpace

/-- Takes the characters of a literal after its first one. -/
def readLiteral : List Char → List Char → Except Fault (List Char)
  | [], text => .ok text
  | _ :: _, [] => .error (.before .endInValue [])
  | expected :: more, c :: rest =>
    if c = expected then readLiteral more rest else .error (.at .expectedLiteral (c :: rest))

/-! ## Strings -/

/-- The value of four hexadecimal digits. -/
def hexValue? (a b c d : Char) : Option Nat :=
  Number.natOfDigits? 16 [a, b, c, d]

/-- The number of bytes of a text. -/
def byteLength (text : List Char) : Nat := text.foldl (fun n c => n + c.utf8Size) 0

/-- Takes the four digits of a numeric escape. -/
def readHex : Reader Nat
  | a :: b :: c :: d :: rest =>
    match hexValue? a b c d with
    | some value => .ok (value, rest)
    | none =>
      if a.utf8Size + b.utf8Size + c.utf8Size + d.utf8Size < 4 then .error (.before .endInString [])
      else .error ⟨.invalidEscape, a :: b :: c :: d :: rest, 4⟩
  | short =>
    if byteLength short < 4 then .error (.before .endInString [])
    else .error ⟨.invalidEscape, short, 4⟩

/-- The first half of a pair that stands for a character beyond the first 65536. -/
def isHighSurrogate (n : Nat) : Bool := 0xD800 ≤ n && n ≤ 0xDBFF

/-- The second half of such a pair. -/
def isLowSurrogate (n : Nat) : Bool := 0xDC00 ≤ n && n ≤ 0xDFFF

/-- The character of a pair of halves. -/
def pairedChar (high low : Nat) : Char :=
  Char.ofNat ((high - 0xD800) * 0x400 + (low - 0xDC00) + 0x10000)

/-- Takes what stands after the backslash and the `u` of a numeric escape; a first half has to be
followed by a second one. -/
def readUnicode (text : List Char) : Except Fault (Char × List Char) := do
  let (high, rest) ← readHex text
  if isLowSurrogate high then throw (.before .loneSurrogate rest)
  if !isHighSurrogate high then return (Char.ofNat high, rest)
  match rest with
  | [] => throw (.before .endInString [])
  | '\\' :: [] => throw (.before .endInString [])
  | '\\' :: 'u' :: more =>
    let (low, rest) ← readHex more
    if isLowSurrogate low then return (pairedChar high low, rest)
    throw (.before .loneSurrogate rest)
  | '\\' :: more => throw (.at .unpairedSurrogate more)
  | other => throw (.at .unpairedSurrogate other)

/-- The character that a letter stands for after a backslash. -/
def escaped? (c : Char) : Option Char :=
  match c with
  | '"' => some '"'
  | '\\' => some '\\'
  | '/' => some '/'
  | 'b' => some '\x08'
  | 'f' => some '\x0C'
  | 'n' => some '\n'
  | 'r' => some '\r'
  | 't' => some '\t'
  | _ => none

/-- Takes what stands after a backslash. -/
def readEscape : Reader Char
  | [] => .error (.before .endInString [])
  | 'u' :: rest => readUnicode rest
  | c :: rest =>
    match escaped? c with
    | some value => .ok (value, rest)
    | none => .error (.at .invalidEscape (c :: rest))

/-- Takes a string after its opening quote. `fuel` bounds the number of characters. -/
def readCharacters : Nat → Reader (List Char)
  | 0, text => .error (.before .endInString text)
  | _ + 1, [] => .error (.before .endInString [])
  | _ + 1, '"' :: rest => .ok ([], rest)
  | fuel + 1, '\\' :: rest => do
    let (c, rest) ← readEscape rest
    let (more, rest) ← readCharacters fuel rest
    return (c :: more, rest)
  | fuel + 1, c :: rest =>
    if c.toNat < 0x20 then .error (.at .controlCharacter (c :: rest))
    else do
      let (more, rest) ← readCharacters fuel rest
      return (c :: more, rest)

/-- Takes a string after its opening quote. -/
def readString : Reader String := fun text => do
  let (characters, rest) ← readCharacters (text.length + 1) text
  return (String.ofList characters, rest)

/-! ## Numbers -/

/-- The largest integer that is kept as one. -/
def integerLimit : Nat := UInt64.size - 1

/-- The largest exponent that is kept. -/
def exponentLimit : Nat := 2147483647

/-- Multiplies or divides by a power of ten, in steps that stay within the finite range; `none`
when the result is beyond it. -/
def scaleByPower (fuel : Nat) (x : Float) (exponent : Int) : Option Float :=
  if exponent.natAbs ≤ 308 then
    let power := Float.ofScientific 1 false exponent.natAbs
    if exponent ≥ 0 then
      let scaled := x * power
      if scaled.isInf then none else some scaled
    else some (x / power)
  else if x == 0.0 then some x
  else if exponent ≥ 0 then none
  else
    match fuel with
    | 0 => some 0.0
    | fuel + 1 => scaleByPower fuel (x / 1e308) (exponent + 308)

/-- A number as it was read. -/
def signed (negative : Bool) (x : Float) : Found := .real (if negative then -x else x)

/-- The number of a significand and an exponent; the text that is left is needed for a fault. -/
def finishReal (negative : Bool) (significand : Nat) (exponent : Int) (rest : List Char) :
    Except Fault (Found × List Char) :=
  match scaleByPower 8 significand.toUInt64.toFloat exponent with
  | some x => .ok (signed negative x, rest)
  | none => .error (.before .numberOutOfRange rest)

/-- Takes the digits of an exponent. Once it is too large to be kept, the number is either out of
range or zero. -/
def readExponentDigits (negative : Bool) (significand : Nat) (start : Int) (down : Bool)
    (exponent : Nat) : List Char → Except Fault (Found × List Char)
  | c :: rest =>
    if c.isDigit then
      let next := exponent * 10 + (c.toNat - '0'.toNat)
      if next > exponentLimit then
        if significand ≠ 0 ∧ !down then .error (.before .numberOutOfRange rest)
        else .ok (signed negative 0.0, rest.dropWhile Char.isDigit)
      else readExponentDigits negative significand start down next rest
    else
      finishReal negative significand (if down then start - exponent else start + exponent)
        (c :: rest)
  | [] => finishReal negative significand (if down then start - exponent else start + exponent) []

/-- Takes an exponent after its `e`. -/
def readExponent (negative : Bool) (significand : Nat) (start : Int) (text : List Char) :
    Except Fault (Found × List Char) :=
  let (down, digits) := Number.splitSign text
  match digits with
  | [] => .error (.before .endInValue [])
  | c :: rest =>
    if c.isDigit then
      readExponentDigits negative significand start down (c.toNat - '0'.toNat) rest
    else .error (.at .invalidNumber (c :: rest))

/-- Ends a number whose digits have all been taken, or goes on with its exponent. -/
def readScale (negative : Bool) (significand : Nat) (exponent : Int) (text : List Char) :
    Except Fault (Found × List Char) :=
  match text with
  | 'e' :: rest => readExponent negative significand exponent rest
  | 'E' :: rest => readExponent negative significand exponent rest
  | rest => finishReal negative significand exponent rest

/-- Takes the digits after a point. Digits that no longer fit are passed over. -/
def readFraction (negative : Bool) (start : Int) (significand places : Nat) :
    List Char → Except Fault (Found × List Char)
  | c :: rest =>
    if c.isDigit then
      let next := significand * 10 + (c.toNat - '0'.toNat)
      if next > integerLimit then
        readScale negative significand (start - places) (rest.dropWhile Char.isDigit)
      else readFraction negative start next (places + 1) rest
    else if places = 0 then .error (.at .invalidNumber (c :: rest))
    else readScale negative significand (start - places) (c :: rest)
  | [] =>
    if places = 0 then .error (.before .endInValue [])
    else readScale negative significand (start - places) []

/-- Ends an integer that fits, or goes on with its fraction or exponent. Minus zero and integers
below the signed range are kept as floating-point numbers. -/
def readAfterInteger (negative : Bool) (significand : Nat) (text : List Char) :
    Except Fault (Found × List Char) :=
  match text with
  | '.' :: rest => readFraction negative 0 significand 0 rest
  | 'e' :: rest => readExponent negative significand 0 rest
  | 'E' :: rest => readExponent negative significand 0 rest
  | rest =>
    if !negative then .ok (.integer significand, rest)
    else if significand = 0 ∨ significand > UInt64.size / 2 then
      .ok (signed true significand.toUInt64.toFloat, rest)
    else .ok (.integer (-significand), rest)

/-- Goes on with an integer that no longer fits: its further digits only scale it. -/
def readLongInteger (negative : Bool) (significand places : Nat) :
    List Char → Except Fault (Found × List Char)
  | c :: rest =>
    if c.isDigit then readLongInteger negative significand (places + 1) rest
    else if c = '.' then readFraction negative places significand 0 rest
    else readScale negative significand places (c :: rest)
  | [] => finishReal negative significand places []

/-- Takes the digits of an integer. -/
def readInteger (negative : Bool) (significand : Nat) :
    List Char → Except Fault (Found × List Char)
  | c :: rest =>
    if c.isDigit then
      let next := significand * 10 + (c.toNat - '0'.toNat)
      if next > integerLimit then readLongInteger negative significand 1 rest
      else readInteger negative next rest
    else readAfterInteger negative significand (c :: rest)
  | [] => readAfterInteger negative significand []

/-- Takes a number after its sign. Zero is not followed by another digit. -/
def readNumber (negative : Bool) : List Char → Except Fault (Found × List Char)
  | [] => .error (.before .endInValue [])
  | '0' :: rest =>
    match rest with
    | c :: _ =>
      if c.isDigit then .error (.at .invalidNumber rest)
      else readAfterInteger negative 0 rest
    | [] => readAfterInteger negative 0 []
  | c :: rest =>
    if c.isDigit then readInteger negative (c.toNat - '0'.toNat) rest
    else .error (.at .invalidNumber (c :: rest))

/-! ## Misplaced values -/

/-- Names the value at the front of a text together with the text after it; lists and objects are
not looked into. -/
def readFound (text : List Char) : Except Fault (Found × List Char) :=
  match text with
  | 'n' :: rest => (readLiteral ['u', 'l', 'l'] rest).map fun rest => (.null, rest)
  | 't' :: rest => (readLiteral ['r', 'u', 'e'] rest).map fun rest => (.boolean true, rest)
  | 'f' :: rest => (readLiteral ['a', 'l', 's', 'e'] rest).map fun rest => (.boolean false, rest)
  | '-' :: rest => readNumber true rest
  | '"' :: rest => (readString rest).map fun (value, rest) => (.text value, rest)
  | '[' :: _ => .ok (.list, text)
  | '{' :: _ => .ok (.object, text)
  | c :: _ => if c.isDigit then readNumber false text else .error (.at .expectedValue text)
  | [] => .error (.at .expectedValue [])

/-- The fault of a value that is not of the kind asked for. -/
def misplaced {α : Type} (expected : String) (text : List Char) : Except Fault α := do
  let (found, rest) ← readFound text
  throw (.before (.misplaced found expected) rest)

/-! ## Values of a kind asked for -/

/-- Takes a string. -/
def readText (expected : String) : Reader String := fun text =>
  match skipSpace text with
  | [] => .error (.before .endInValue [])
  | '"' :: rest => readString rest
  | rest => misplaced expected rest

/-- Takes a value that may be null. -/
def readOptional {α : Type} (reader : Reader α) : Reader (Option α) := fun text =>
  match skipSpace text with
  | 'n' :: rest => (readLiteral ['u', 'l', 'l'] rest).map fun rest => (none, rest)
  | rest => (reader rest).map fun (value, rest) => (some value, rest)

/-- Takes the elements of a list up to its end; `first` says that none has been taken yet. `fuel`
bounds their number. -/
def readElements {α : Type} (reader : Reader α) : Nat → Bool → Reader (List α)
  | 0, _, text => .error (.before .endInList text)
  | fuel + 1, first, text =>
    match skipSpace text with
    | [] => .error (.before .endInList [])
    | ']' :: rest => .ok ([], rest)
    | c :: rest => do
      let start ←
        if first then pure (c :: rest)
        else if c = ',' then
          match skipSpace rest with
          | [] => throw (.before .endInValue [])
          | ']' :: rest => throw (.at .trailingComma (']' :: rest))
          | next => pure next
        else throw (.at .expectedListEnd (c :: rest))
      let (value, rest) ← reader start
      let (more, rest) ← readElements reader fuel false rest
      return (value :: more, rest)

/-- Takes a list. -/
def readList {α : Type} (reader : Reader α) : Reader (List α) := fun text =>
  match skipSpace text with
  | [] => .error (.before .endInValue [])
  | '[' :: rest => readElements reader (rest.length + 1) true rest
  | rest => misplaced "a sequence" rest

/-- Takes the colon between a key and its value. -/
def readColon (text : List Char) : Except Fault (List Char) :=
  match skipSpace text with
  | [] => .error (.before .endInObject [])
  | ':' :: rest => .ok rest
  | rest => .error (.at .expectedColon rest)

/-- Takes the next key of an object, or its end. -/
def readKey (first : Bool) (text : List Char) : Except Fault (Option String × List Char) :=
  match skipSpace text with
  | [] => .error (.before .endInObject [])
  | '}' :: rest => .ok (none, rest)
  | c :: rest =>
    if first then
      if c = '"' then (readString rest).map fun (key, rest) => (some key, rest)
      else .error (.at .keyNotString (c :: rest))
    else if c = ',' then
      match skipSpace rest with
      | [] => .error (.before .endInValue [])
      | '"' :: rest => (readString rest).map fun (key, rest) => (some key, rest)
      | '}' :: rest => .error (.at .trailingComma ('}' :: rest))
      | rest => .error (.at .keyNotString rest)
    else .error (.at .expectedObjectEnd (c :: rest))

/-- Takes the end of a list all of whose elements have been taken. -/
def readListEnd (text : List Char) : Except Fault (List Char) :=
  match skipSpace text with
  | [] => .error (.before .endInList [])
  | ']' :: rest => .ok rest
  | ',' :: rest =>
    match skipSpace rest with
    | ']' :: rest => .error (.at .trailingComma (']' :: rest))
    | rest => .error (.at .trailingText rest)
  | rest => .error (.at .trailingText rest)

/-- Reads a text that holds one value and nothing else. -/
def readAll {α : Type} (reader : Reader α) (text : List Char) : Except Fault α := do
  let (value, rest) ← reader text
  match skipSpace rest with
  | [] => return value
  | rest => throw (.at .trailingText rest)

/-! ## Values of no interest -/

/-- Passes over a string after its opening quote. Escapes need not denote characters. `fuel` bounds
the number of characters. -/
def skipCharacters : Nat → List Char → Except Fault (List Char)
  | 0, text => .error (.before .endInString text)
  | _ + 1, [] => .error (.before .endInString [])
  | _ + 1, '"' :: rest => .ok rest
  | _ + 1, '\\' :: [] => .error (.before .endInString [])
  | fuel + 1, '\\' :: c :: rest =>
    if c = 'u' then do
      let (_, rest) ← readHex rest
      skipCharacters fuel rest
    else if (escaped? c).isSome then skipCharacters fuel rest
    else .error (.at .invalidEscape (c :: rest))
  | fuel + 1, c :: rest =>
    if c.toNat < 0x20 then .error (.before .controlCharacter (c :: rest))
    else skipCharacters fuel rest

/-- Passes over a string after its opening quote. -/
def skipString (text : List Char) : Except Fault (List Char) :=
  skipCharacters (text.length + 1) text

/-- Passes over an exponent after its `e`. -/
def skipExponent (text : List Char) : Except Fault (List Char) :=
  match (Number.splitSign text).2 with
  | [] => .error (.before .invalidNumber [])
  | c :: rest =>
    if c.isDigit then .ok (rest.dropWhile Char.isDigit)
    else .error (.at .invalidNumber (c :: rest))

/-- Passes over what may follow the digits of a number. -/
def skipScale (text : List Char) : Except Fault (List Char) :=
  match text with
  | 'e' :: rest => skipExponent rest
  | 'E' :: rest => skipExponent rest
  | rest => .ok rest

/-- Passes over what may follow the digits of an integer. -/
def skipFraction (text : List Char) : Except Fault (List Char) :=
  match text with
  | '.' :: rest =>
    match rest with
    | c :: _ =>
      if c.isDigit then skipScale (rest.dropWhile Char.isDigit)
      else .error (.at .invalidNumber rest)
    | [] => .error (.at .invalidNumber [])
  | rest => skipScale rest

/-- Passes over a number after its sign. -/
def skipNumber (text : List Char) : Except Fault (List Char) :=
  match text with
  | [] => .error (.before .invalidNumber [])
  | '0' :: rest =>
    match rest with
    | c :: _ => if c.isDigit then .error (.at .invalidNumber rest) else skipFraction rest
    | [] => .ok []
  | c :: rest =>
    if c.isDigit then skipFraction (rest.dropWhile Char.isDigit)
    else .error (.at .invalidNumber text)

/-- The enclosing lists and objects of a place in a text. -/
inductive Frame where
  | list
  | object
deriving DecidableEq

/-- Passes over a key and its colon. -/
def skipKey (text : List Char) : Except Fault (List Char) :=
  match skipSpace text with
  | [] => .error (.before .endInObject [])
  | '"' :: rest => do readColon (← skipString rest)
  | rest => .error (.at .keyNotString rest)

/-- Passes over a value without a look at what it means. `frames` are the lists and objects that
are still open, and `done` says that a value has just ended; `fuel` bounds the number of parts. -/
def skipParts : Nat → List Frame → Bool → List Char → Except Fault (List Char)
  | 0, _, _, text => .error (.before .endInValue text)
  | _ + 1, [], true, text => .ok text
  | fuel + 1, frame :: frames, true, text =>
    match frame, skipSpace text with
    | .list, [] => .error (.before .endInList [])
    | .object, [] => .error (.before .endInObject [])
    | .list, ']' :: rest => skipParts fuel frames true rest
    | .object, '}' :: rest => skipParts fuel frames true rest
    | .list, ',' :: rest => skipParts fuel (.list :: frames) false rest
    | .object, ',' :: rest => do
      skipParts fuel (.object :: frames) false (← skipKey rest)
    | .list, rest => .error (.at .expectedListEnd rest)
    | .object, rest => .error (.at .expectedObjectEnd rest)
  | fuel + 1, frames, false, text =>
    match skipSpace text with
    | [] => .error (.before .endInValue [])
    | 'n' :: rest => do skipParts fuel frames true (← readLiteral ['u', 'l', 'l'] rest)
    | 't' :: rest => do skipParts fuel frames true (← readLiteral ['r', 'u', 'e'] rest)
    | 'f' :: rest => do skipParts fuel frames true (← readLiteral ['a', 'l', 's', 'e'] rest)
    | '-' :: rest => do skipParts fuel frames true (← skipNumber rest)
    | '"' :: rest => do skipParts fuel frames true (← skipString rest)
    | '[' :: rest =>
      match skipSpace rest with
      | [] => .error (.before .endInList [])
      | ']' :: rest => skipParts fuel frames true rest
      | rest => skipParts fuel (.list :: frames) false rest
    | '{' :: rest =>
      match skipSpace rest with
      | [] => .error (.before .endInObject [])
      | '}' :: rest => skipParts fuel frames true rest
      | rest => do skipParts fuel (.object :: frames) false (← skipKey rest)
    | c :: rest =>
      if c.isDigit then do skipParts fuel frames true (← skipNumber (c :: rest))
      else .error (.at .expectedValue (c :: rest))

/-- Passes over a value. -/
def skipValue (text : List Char) : Except Fault (List Char) :=
  skipParts (2 * text.length + 2) [] false text

end CallbackWeave.Json

import CallbackWeave.Number.Literal
import CallbackWeave.Preprocessor.Token

/-!
Conditions of directives. Their numbers have sixty-four bits and are unsigned as soon as one of the two
sides is. `Condition.evaluate` gives the value of tokens in which all names have been replaced.
-/

namespace CallbackWeave.Preprocessor.Condition

/-- A number. -/
structure Value where
  bits : UInt64
  unsigned : Bool
deriving DecidableEq, Repr, Inhabited

namespace Value

/-- A number with a sign. -/
def ofBits (bits : UInt64) : Value := ⟨bits, false⟩

/-- One for what holds and zero for what does not. -/
def ofBool (b : Bool) : Value := ofBits (if b then 1 else 0)

/-- Whether a number counts as true. -/
def isTrue (v : Value) : Bool := v.bits ≠ 0

/-- The integer that a number is. -/
def toInt (v : Value) : Int := if v.unsigned then v.bits.toNat else v.bits.toInt64.toInt

end Value

/-- An operation on two numbers. -/
inductive Operator where
  | times | quotient | remainder | plus | minus | shiftLeft | shiftRight
  | less | atMost | greater | atLeast | equal | unequal | bitAnd | bitExclusive | bitOr | last
deriving DecidableEq, Repr

/-- A condition. -/
inductive Expression where
  | value (v : Value)
  | negative (e : Expression)
  | complement (e : Expression)
  | not (e : Expression)
  | operate (operator : Operator) (left right : Expression)
  | both (left right : Expression)
  | either (left right : Expression)
  | choose (condition yes no : Expression)

/-- The operators of each level that groups from the left, weakest first. -/
def operatorsOf : Nat → List (String × Operator)
  | 0 => [(",", .last)]
  | 4 => [("|", .bitOr)]
  | 5 => [("^", .bitExclusive)]
  | 6 => [("&", .bitAnd)]
  | 7 => [("==", .equal), ("!=", .unequal)]
  | 8 => [("<", .less), ("<=", .atMost), (">", .greater), (">=", .atLeast)]
  | 9 => [("<<", .shiftLeft), (">>", .shiftRight)]
  | 10 => [("+", .plus), ("-", .minus)]
  | 11 => [("*", .times), ("/", .quotient), ("%", .remainder)]
  | _ => []

/-- What may stand behind the digits of a number, in lower case. -/
def suffixes : List String := ["", "u", "l", "ul", "lu", "ll", "ull", "llu"]

/-- The number that a token writes. -/
def ofNumber (text : Octets) : Except String Value := do
  let lower := text.map Char.toLower
  let (base, digits) : Nat × Octets :=
    match lower with
    | '0' :: 'x' :: rest => (16, rest)
    | '0' :: 'b' :: rest => (2, rest)
    | '0' :: rest => (8, '0' :: rest)
    | _ => (10, lower)
  let isFloat := digits.contains '.' || base = 16 && digits.contains 'p'
    || (base = 10 || base = 8) && digits.contains 'e'
  if isFloat then throw "floating constant in preprocessor expression"
  let found := digits.takeWhile fun c => (Number.digitValue? base c).isSome
  let suffix := String.ofList (digits.drop found.length)
  if !suffixes.contains suffix then
    if base = 8 && (suffix.toList.head?.any Char.isDigit) then
      throw ("invalid digit \"" ++ suffix.take 1 ++ "\" in octal constant")
    else throw ("invalid suffix \"" ++ suffix ++ "\" on integer constant")
  let n := (Number.natOfDigits? base found).getD 0
  return ⟨n.toUInt64, suffix.contains 'u' || Nat.pow 2 63 ≤ n⟩

/-- The characters of escapes of a single letter. -/
def letterEscapes : List (Char × Nat) :=
  [('a', 7), ('b', 8), ('f', 12), ('n', 10), ('r', 13), ('t', 9), ('v', 11), ('e', 27), ('E', 27)]

/-- The codes of characters in quotes. `skip` is the number of characters that belong to an escape
before. -/
def codes : Nat → Octets → List Nat
  | _, [] => []
  | skip + 1, _ :: rest => codes skip rest
  | 0, '\\' :: c :: rest =>
    let digits (base most : Nat) (text : Octets) : Octets :=
      (text.take most).takeWhile fun d => (Number.digitValue? base d).isSome
    let octal := digits 8 3 (c :: rest)
    if !octal.isEmpty then
      (Number.natOfDigits? 8 octal).getD 0 % 256 :: codes octal.length (c :: rest)
    else if c = 'x' then
      let found := digits 16 rest.length rest
      (Number.natOfDigits? 16 found).getD 0 % 256 :: codes (found.length + 1) (c :: rest)
    else (letterEscapes.lookup c).getD c.toNat :: codes 1 (c :: rest)
  | 0, c :: rest => c.toNat :: codes 0 rest

/-- The number that characters in quotes write. -/
def ofCharacters (text : Octets) : Except String Value :=
  match codes 0 (text.drop 1).dropLast with
  | [] => .error "empty character constant"
  | [code] => .ok (Value.ofBits (if code < 128 then code.toUInt64 else (code.toUInt64 - 256)))
  | found =>
    let n := found.foldl (fun total code => (total * 256 + code) % Nat.pow 2 32) 0
    .ok (Value.ofBits (if n < Nat.pow 2 31 then n.toUInt64 else n.toUInt64 - (Nat.pow 2 32).toUInt64))

/-- The number that a single wide character writes. -/
def ofMarked (text : Octets) : Except String Value :=
  let inner := (text.dropWhile (· ≠ '\'')).drop 1
  if inner.isEmpty then .error "token is not valid in preprocessor expressions"
  else .ok (Value.ofBits ((codes 0 inner.dropLast).headD 0).toUInt64)

/-- Takes an expression off the front of some tokens. -/
abbrev Parser := StateT (List Token) (Except String)

/-- Goes over a sign, if it is there. -/
def takes (sign : String) : Parser Bool := fun tokens =>
  match tokens with
  | t :: rest => .ok (if t.isSign sign then (true, rest) else (false, tokens))
  | [] => .ok (false, [])

/-- Takes what is joined to an operand by some operators. `fuel` bounds the operands. -/
def joined (operand : Parser Expression) (operators : List (String × Operator)) :
    Nat → Expression → Parser Expression
  | 0, left => pure left
  | fuel + 1, left => do
    match ← get with
    | t :: rest =>
      match if t.kind = .sign then operators.lookup (String.ofList t.text) else none with
      | some operator =>
        set rest
        joined operand operators fuel (.operate operator left (← operand))
      | none => return left
    | [] => return left

/-- Takes a number, or signs with what stands behind them. -/
def primary (operand whole : Parser Expression) : Parser Expression := do
  match ← get with
  | [] => throw "operator has no right operand"
  | t :: rest =>
    set rest
    match t.kind, String.ofList t.text with
    | .number, _ => return .value (← ofNumber t.text)
    | .character, _ => return .value (← ofCharacters t.text)
    | .marked, _ => return .value (← ofMarked t.text)
    | .name, _ => return .value ⟨0, false⟩
    | .sign, "(" =>
      let inner ← whole
      if ← takes ")" then return inner else throw "missing ')' in expression"
    | .sign, "+" => operand
    | .sign, "-" => return .negative (← operand)
    | .sign, "!" => return .not (← operand)
    | .sign, "~" => return .complement (← operand)
    | _, text => throw ("token \"" ++ text ++ "\" is not valid in preprocessor expressions")

/-- Takes an expression of a level: lists, choices, the two conditions, the levels of operators, and
what they join. -/
def expression : Nat → Nat → Parser Expression
  | 0, _ => throw "operator has no right operand"
  | fuel + 1, level => do
    match level with
    | 1 =>
      let condition ← expression fuel 2
      if ← takes "?" then
        let yes ← expression fuel 0
        if ← takes ":" then return .choose condition yes (← expression fuel 1)
        else throw "'?' without following ':'"
      else return condition
    | 2 =>
      let left ← expression fuel 3
      if ← takes "||" then return .either left (← expression fuel 2) else return left
    | 3 =>
      let left ← expression fuel 4
      if ← takes "&&" then return .both left (← expression fuel 3) else return left
    | 12 => primary (expression fuel 12) (expression fuel 0)
    | level =>
      let first ← expression fuel (level + 1)
      joined (expression fuel (level + 1)) (operatorsOf level) fuel first

/-- The value of an operation on two numbers. -/
def Operator.apply (operator : Operator) (a b : Value) : Except String Value :=
  let unsigned := a.unsigned || b.unsigned
  let x : Value := ⟨a.bits, unsigned⟩
  let y : Value := ⟨b.bits, unsigned⟩
  let number (bits : UInt64) : Except String Value := .ok ⟨bits, unsigned⟩
  let shifted (v : Value) (left : Bool) (amount : Int) : Value :=
    let leftwards := left == decide (0 ≤ amount)
    let n := amount.natAbs
    if leftwards then ⟨if n < 64 then v.bits <<< n.toUInt64 else 0, v.unsigned⟩
    else if v.unsigned then ⟨if n < 64 then v.bits >>> n.toUInt64 else 0, true⟩
    else ⟨(v.bits.toInt64 >>> (min n 63).toInt64).toUInt64, false⟩
  match operator with
  | times => number (a.bits * b.bits)
  | quotient =>
    if b.bits = 0 then .error "division by zero in #if"
    else number (if unsigned then a.bits / b.bits else (a.bits.toInt64 / b.bits.toInt64).toUInt64)
  | remainder =>
    if b.bits = 0 then .error "division by zero in #if"
    else number (if unsigned then a.bits % b.bits else (a.bits.toInt64 % b.bits.toInt64).toUInt64)
  | plus => number (a.bits + b.bits)
  | minus => number (a.bits - b.bits)
  | shiftLeft => .ok (shifted a true b.toInt)
  | shiftRight => .ok (shifted a false b.toInt)
  | less => .ok (.ofBool (x.toInt < y.toInt))
  | atMost => .ok (.ofBool (x.toInt ≤ y.toInt))
  | greater => .ok (.ofBool (y.toInt < x.toInt))
  | atLeast => .ok (.ofBool (y.toInt ≤ x.toInt))
  | equal => .ok (.ofBool (a.bits = b.bits))
  | unequal => .ok (.ofBool (a.bits ≠ b.bits))
  | bitAnd => number (a.bits &&& b.bits)
  | bitExclusive => number (a.bits ^^^ b.bits)
  | bitOr => number (a.bits ||| b.bits)
  | last => .ok b

/-- The value of an expression. What does not matter is not looked at. -/
def value : Expression → Except String Value
  | .value v => .ok v
  | .negative e => do
    let v ← value e
    return { v with bits := 0 - v.bits }
  | .complement e => do
    let v ← value e
    return { v with bits := ~~~v.bits }
  | .not e => do return .ofBool !(← value e).isTrue
  | .operate operator left right => do operator.apply (← value left) (← value right)
  | .both left right => do
    if (← value left).isTrue then return .ofBool (← value right).isTrue else return .ofBool false
  | .either left right => do
    if (← value left).isTrue then return .ofBool true else return .ofBool (← value right).isTrue
  | .choose condition yes no => do
    if (← value condition).isTrue then value yes else value no

/-- Whether a condition holds. -/
def evaluate (tokens : List Token) : Except String Bool := do
  if tokens.isEmpty then throw "#if with no expression"
  match ← (expression (16 * (tokens.length + 2)) 0).run tokens with
  | (e, []) => return (← value e).isTrue
  | (_, t :: _) =>
    if t.isSign ")" then throw "missing '(' in expression"
    else if t.kind = .sign then
      throw ("token \"" ++ t.text.toText ++ "\" is not valid in preprocessor expressions")
    else throw ("missing binary operator before token \"" ++ t.text.toText ++ "\"")

end CallbackWeave.Preprocessor.Condition

import CallbackWeave.Number.Literal
import CallbackWeave.Host.Octets

/-!
Arithmetic of a shell, on integers of sixty-four bits that wrap around. `Arithmetic.parse` reads an
expression and `Arithmetic.evaluate` gives its value; the variables that it sets come with the value.
-/

namespace CallbackWeave.Shell.Arithmetic

/-- An operation on two numbers, both of which are needed. -/
inductive Operator where
  | times | quotient | remainder | plus | minus | shiftLeft | shiftRight
  | less | atMost | greater | atLeast | equal | unequal | bitAnd | bitExclusive | bitOr
deriving DecidableEq, Repr

/-- An operation on one number. -/
inductive Sign where
  | plus | minus | not | complement
deriving DecidableEq, Repr

/-- An expression. -/
inductive Expression where
  | number (value : Int64)
  | variable (name : Octets)
  /-- Sets a variable, to the result of an operation on its value if there is one. -/
  | assign (name : Octets) (operator : Option Operator) (value : Expression)
  | sign (kind : Sign) (value : Expression)
  | operate (operator : Operator) (left right : Expression)
  | both (left right : Expression)
  | either (left right : Expression)
  | choose (condition yes no : Expression)

/-- Why an expression has no value. -/
inductive Fault where
  | expects (what : String)
  | divisionByZero
  | badNumber (text : Octets)
deriving DecidableEq, Repr

/-- What is told of an expression that has no value. -/
def Fault.message (source : Octets) : Fault → Octets
  | expects what =>
    ("arithmetic expression: expecting " ++ what ++ ": \"").toList ++ source ++ ['"']
  | divisionByZero => "arithmetic expression: division by zero: \"".toList ++ source ++ ['"']
  | badNumber text => "Illegal number: ".toList ++ text

/-- A piece of an expression. -/
inductive Token where
  | number (value : Int64)
  | name (text : Octets)
  | sign (text : String)
  /-- Something that has no place in an expression. -/
  | unknown
deriving DecidableEq, Repr

/-- The signs, longer ones first. -/
def signs : List String :=
  ["<<=", ">>=", "<<", ">>", "<=", ">=", "==", "!=", "&&", "||", "*=", "/=", "%=", "+=", "-=", "&=",
    "^=", "|=", "=", "<", ">", "&", "|", "^", "!", "~", "+", "-", "*", "/", "%", "(", ")", "?", ":"]

/-- The largest number. -/
def largest : Nat := Nat.pow 2 63 - 1

/-- The digits of the number at the front of a text, and what follows. A leading zero begins an
octal number, or a hexadecimal one if an X follows. -/
def splitNumber (text : Octets) : Nat × Octets :=
  let digits (base : Nat) (text : Octets) : Nat × Octets :=
    let found := text.takeWhile fun c => (Number.digitValue? base c).isSome
    ((Number.natOfDigits? base found).getD 0, text.drop found.length)
  match text with
  | '0' :: x :: d :: rest =>
    if (x = 'x' || x = 'X') && (Number.digitValue? 16 d).isSome then digits 16 (d :: rest)
    else digits 8 text
  | '0' :: _ => digits 8 text
  | _ => digits 10 text

def isBlank (c : Char) : Bool := c = ' ' || '\t' ≤ c && c ≤ '\r'

/-- The pieces of an expression. `fuel` bounds their number. -/
def tokens : Nat → Octets → List Token
  | 0, _ => []
  | _, [] => []
  | fuel + 1, c :: rest =>
    if isBlank c then tokens fuel rest
    else if c.isDigit then
      let (value, rest) := splitNumber (c :: rest)
      .number (Int64.ofInt (min value largest)) :: tokens fuel rest
    else if c.isAlpha || c = '_' then
      let name := (c :: rest).takeWhile fun c => c.isAlphanum || c = '_'
      .name name :: tokens fuel ((c :: rest).drop name.length)
    else
      match signs.find? (·.toList.isPrefixOf (c :: rest)) with
      | some sign => .sign sign :: tokens fuel ((c :: rest).drop sign.length)
      | none => [.unknown]

/-- The operators of each level that groups from the left, weakest first. -/
def operatorsOf : Nat → List (String × Operator)
  | 4 => [("|", .bitOr)]
  | 5 => [("^", .bitExclusive)]
  | 6 => [("&", .bitAnd)]
  | 7 => [("==", .equal), ("!=", .unequal)]
  | 8 => [("<", .less), ("<=", .atMost), (">", .greater), (">=", .atLeast)]
  | 9 => [("<<", .shiftLeft), (">>", .shiftRight)]
  | 10 => [("+", .plus), ("-", .minus)]
  | 11 => [("*", .times), ("/", .quotient), ("%", .remainder)]
  | _ => []

/-- The signs that set a variable. -/
def assignments : List (String × Option Operator) :=
  [("=", none), ("*=", some .times), ("/=", some .quotient), ("%=", some .remainder),
    ("+=", some .plus), ("-=", some .minus), ("<<=", some .shiftLeft), (">>=", some .shiftRight),
    ("&=", some .bitAnd), ("^=", some .bitExclusive), ("|=", some .bitOr)]

/-- Takes an expression off the front of some pieces. -/
abbrev Parser := StateT (List Token) (Except Fault)

/-- Goes over a sign, if it is there. -/
def takes (sign : String) : Parser Bool := fun tokens =>
  match tokens with
  | .sign text :: rest => .ok (if text = sign then (true, rest) else (false, tokens))
  | _ => .ok (false, tokens)

/-- Takes what is joined to an operand by some operators. `fuel` bounds the operands. -/
def joined (operand : Parser Expression) (operators : List (String × Operator)) :
    Nat → Expression → Parser Expression
  | 0, left => pure left
  | fuel + 1, left => do
    match ← get with
    | .sign text :: rest =>
      match operators.lookup text with
      | some operator =>
        set rest
        joined operand operators fuel (.operate operator left (← operand))
      | none => return left
    | _ => return left

/-- Takes an expression of a level: whole ones, choices, the two conditions, the levels of
operators, and signs with what stands behind them. -/
def expression : Nat → Nat → Parser Expression
  | 0, _ => throw (.expects "primary")
  | fuel + 1, level => do
    match level with
    | 0 =>
      match ← get with
      | .name name :: .sign sign :: rest =>
        match assignments.lookup sign with
        | some operator =>
          set rest
          return .assign name operator (← expression fuel 0)
        | none => expression fuel 1
      | _ => expression fuel 1
    | 1 =>
      let condition ← expression fuel 2
      if ← takes "?" then
        let yes ← expression fuel 0
        if ← takes ":" then return .choose condition yes (← expression fuel 1)
        else throw (.expects "':'")
      else return condition
    | 2 =>
      let left ← expression fuel 3
      if ← takes "||" then return .either left (← expression fuel 2) else return left
    | 3 =>
      let left ← expression fuel 4
      if ← takes "&&" then return .both left (← expression fuel 3) else return left
    | 12 =>
      match ← get with
      | .number value :: rest => set rest; return .number value
      | .name name :: rest => set rest; return .variable name
      | .sign "(" :: rest =>
        set rest
        let inner ← expression fuel 0
        if ← takes ")" then return inner else throw (.expects "')'")
      | .sign "+" :: rest => set rest; return .sign .plus (← expression fuel 12)
      | .sign "-" :: rest => set rest; return .sign .minus (← expression fuel 12)
      | .sign "!" :: rest => set rest; return .sign .not (← expression fuel 12)
      | .sign "~" :: rest => set rest; return .sign .complement (← expression fuel 12)
      | _ => throw (.expects "primary")
    | level =>
      let first ← expression fuel (level + 1)
      joined (expression fuel (level + 1)) (operatorsOf level) fuel first

/-- Reads an expression. -/
def parse (text : Octets) : Except Fault Expression := do
  let found := tokens text.length text
  match ← (expression (16 * (found.length + 2)) 0).run found with
  | (e, []) => pure e
  | _ => throw (.expects "EOF")

/-- The number that the value of a variable writes. -/
def ofValue (text : Octets) : Except Fault Int64 :=
  let (negative, digits) := Number.splitSign (text.dropWhile isBlank)
  let (value, rest) := splitNumber digits
  let limit := if negative then largest + 1 else largest
  if !(rest.dropWhile isBlank).isEmpty || value > limit then .error (.badNumber text)
  else .ok (Int64.ofInt (if negative then -(value : Int) else value))

/-- One for what holds and zero for what does not. -/
def ofBool (b : Bool) : Int64 := if b then 1 else 0

/-- The value of an operation on two numbers. -/
def Operator.apply (operator : Operator) (a b : Int64) : Except Fault Int64 :=
  match operator with
  | times => .ok (a * b)
  | quotient => if b = 0 then .error .divisionByZero else .ok (a / b)
  | remainder => if b = 0 then .error .divisionByZero else .ok (a % b)
  | plus => .ok (a + b)
  | minus => .ok (a - b)
  | shiftLeft => .ok (a <<< b)
  | shiftRight => .ok (a >>> b)
  | less => .ok (ofBool (a < b))
  | atMost => .ok (ofBool (a ≤ b))
  | greater => .ok (ofBool (b < a))
  | atLeast => .ok (ofBool (b ≤ a))
  | equal => .ok (ofBool (a = b))
  | unequal => .ok (ofBool (a ≠ b))
  | bitAnd => .ok (a &&& b)
  | bitExclusive => .ok (a ^^^ b)
  | bitOr => .ok (a ||| b)

/-- The variables that an expression has set, the last one first. -/
abbrev Settings := List (Octets × Octets)

/-- The value of an expression. `value?` gives the values of variables that it does not set. -/
def evaluate (value? : Octets → Option Octets) : Expression → StateT Settings (Except Fault) Int64
  | .number value => pure value
  | .variable name => do
    match (← get).lookup name <|> value? name with
    | some text => ofValue text
    | none => pure 0
  | .assign name operator e => do
    let value ← evaluate value? e
    let result ← match operator with
      | none => pure value
      | some operator => do
        let old ← match (← get).lookup name <|> value? name with
          | some text => ofValue text
          | none => pure 0
        operator.apply old value
    modify ((name, Octets.ofInt result.toInt) :: ·)
    return result
  | .sign kind e => do
    let value ← evaluate value? e
    return match kind with
      | .plus => value
      | .minus => -value
      | .not => ofBool (value = 0)
      | .complement => ~~~value
  | .operate operator left right => do
    let a ← evaluate value? left
    let b ← evaluate value? right
    operator.apply a b
  | .both left right => do
    if (← evaluate value? left) = 0 then return 0
    else return ofBool ((← evaluate value? right) ≠ 0)
  | .either left right => do
    if (← evaluate value? left) ≠ 0 then return 1
    else return ofBool ((← evaluate value? right) ≠ 0)
  | .choose condition yes no => do
    if (← evaluate value? condition) ≠ 0 then evaluate value? yes else evaluate value? no

/-- The value that a text writes, and the variables that it sets in the order in which they are
set. -/
def run (value? : Octets → Option Octets) (text : Octets) : Except Fault (Int64 × Settings) := do
  let (value, settings) ← (evaluate value? (← parse text)).run []
  return (value, settings.reverse)

end CallbackWeave.Shell.Arithmetic

import CallbackWeave.FileTree.FileSystem
import CallbackWeave.Host.Octets
import CallbackWeave.Number.Literal

/-!
Conditions on files, texts and numbers. `Condition.holds` reads the arguments of a test and says whether
it holds; a test that cannot be understood gives a complaint.
-/

namespace CallbackWeave.Utility.Condition

/-- What a token of a test is. -/
inductive Token where
  | operand
  /-- The end of the arguments. -/
  | none
  /-- An operator with one operand, or with two. -/
  | unary
  | binary
  | not
  | and
  | or
  | opening
  | closing
deriving DecidableEq, Repr

/-- The operators with one operand. -/
def unaryOperators : List String :=
  ["-r", "-w", "-x", "-e", "-f", "-d", "-c", "-b", "-p", "-u", "-g", "-k", "-s", "-t", "-z", "-n",
    "-h", "-L", "-S", "-O", "-G"]

/-- The operators with two operands. -/
def binaryOperators : List String :=
  ["=", "!=", "<", ">", "-eq", "-ne", "-ge", "-gt", "-le", "-lt", "-nt", "-ot", "-ef"]

/-- The token that an argument would be wherever it stands. -/
def operator (argument : Octets) : Token :=
  let text := String.ofList argument
  if unaryOperators.contains text then .unary
  else if binaryOperators.contains text then .binary
  else
    match text with
    | "!" => .not
    | "-a" => .and
    | "-o" => .or
    | "(" => .opening
    | ")" => .closing
    | _ => .operand

/-- The token at the front of arguments. An operator that nothing follows, or a binary operator, is an
operand itself. -/
def token : List Octets → Token
  | [] => .none
  | first :: rest =>
    match operator first, rest with
    | .unary, [] => .operand
    | .unary, next :: _ :: _ => if operator next = .binary then .operand else .unary
    | .opening, [] => .operand
    | found, _ => found

/-- A complaint about an argument. -/
def complaint (argument : Octets) (text : String) : String :=
  if argument.isEmpty then text else argument.toText ++ ": " ++ text

/-- The number that an argument writes. -/
def number (argument : Octets) : Except String Int :=
  let isBlank (c : Char) : Bool := c = ' ' || '\t' ≤ c && c ≤ '\r'
  let text := ((argument.dropWhile isBlank).reverse.dropWhile isBlank).reverse
  let (negative, digits) := Number.splitSign text
  match Number.natOfDigits? 10 digits with
  | some n => .ok (if negative then -(n : Int) else n)
  | none => .error ("Illegal number: " ++ argument.toText)

/-- Whether a file is as a unary operator says. -/
def fileIs (fs : FileSystem) (operator : String) (name : Octets) : Bool :=
  let path := name.toPath
  let asLink : Bool := match fs.locate .entry path with
    | .ok ⟨_, some (.link _)⟩ => true
    | _ => false
  match operator with
  | "-h" | "-L" => asLink
  | "-f" => fs.isFile path
  | "-d" => fs.isDirectory path
  | "-c" => (fs.device? path).isSome
  | "-s" =>
    match fs.entry? path with
    | some (.file content _) => !content.isEmpty
    | some _ => true
    | none => false
  | "-x" =>
    match fs.entry? path with
    | some (.file _ executable) => executable
    | some _ => true
    | none => false
  | "-e" | "-r" | "-w" | "-O" | "-G" => fs.holds path
  | _ => false

/-- Whether a unary operator holds of its operand. -/
def unary (fs : FileSystem) (operator operand : Octets) : Bool :=
  match String.ofList operator with
  | "-z" => operand.isEmpty
  | "-n" => !operand.isEmpty
  | "-t" => false
  | name => fileIs fs name operand

/-- Whether a binary operator holds of its operands. -/
def binary (fs : FileSystem) (left operator right : Octets) : Except String Bool := do
  match String.ofList operator with
  | "=" => return left = right
  | "!=" => return left ≠ right
  | "<" => return left ≠ right && left.precedes right
  | ">" => return left ≠ right && right.precedes left
  | "-ef" => return fs.sameFile left.toPath right.toPath
  | "-nt" | "-ot" => return false
  | name =>
    let a ← number left
    let b ← number right
    return match name with
      | "-eq" => a = b
      | "-ne" => a ≠ b
      | "-ge" => b ≤ a
      | "-gt" => b < a
      | "-le" => a ≤ b
      | _ => a < b

/-- How tightly a part of a test is joined. -/
inductive Level where
  | alternatives
  | conjunction
  | negation
  | single
deriving DecidableEq, Repr

/-- Reads a part of a test whose first token is given and stands at the front of the arguments. The
last argument that belongs to it is left at the front. `fuel` bounds the steps. -/
def part (fs : FileSystem) : Nat → Level → Token → List Octets →
    Except String (Bool × List Octets)
  | 0, _, _, arguments => .ok (false, arguments)
  | fuel + 1, .alternatives, first, arguments => do
    let (left, arguments) ← part fs fuel .conjunction first arguments
    match arguments.drop 1 with
    | mark :: more =>
      if token (mark :: more) = .or then
        let (right, rest) ← part fs fuel .alternatives (token more) more
        return (left || right, rest)
      else return (left, arguments)
    | [] => return (left, arguments)
  | fuel + 1, .conjunction, first, arguments => do
    let (left, arguments) ← part fs fuel .negation first arguments
    match arguments.drop 1 with
    | mark :: more =>
      if token (mark :: more) = .and then
        let (right, rest) ← part fs fuel .conjunction (token more) more
        return (left && right, rest)
      else return (left, arguments)
    | [] => return (left, arguments)
  | fuel + 1, .negation, first, arguments =>
    if first = .not then
      let next := token (arguments.drop 1)
      let arguments := if next = .none then arguments else arguments.drop 1
      (part fs fuel .negation next arguments).map fun (b, rest) => (!b, rest)
    else part fs fuel .single first arguments
  | fuel + 1, .single, first, arguments =>
    match first, arguments with
    | .none, _ => .ok (false, arguments)
    | .opening, _ :: inner =>
      if token inner = .closing then .ok (false, inner)
      else do
        let (b, rest) ← part fs fuel .alternatives (token inner) inner
        if token (rest.drop 1) = .closing then return (b, rest.drop 1)
        else throw "closing paren expected"
    | .unary, operator :: operand :: rest => .ok (unary fs operator operand, operand :: rest)
    | .unary, operator :: [] => .error (complaint operator "argument expected")
    | _, operand :: rest =>
      match rest with
      | operator :: more =>
        if token (operator :: more) = .binary then
          match more with
          | right :: _ => (binary fs operand operator right).map fun b => (b, more)
          | [] => .error (complaint operator "argument expected")
        else .ok (!operand.isEmpty, arguments)
      | [] => .ok (!operand.isEmpty, arguments)
    | _, [] => .ok (false, [])

/-- Reads a whole test whose first token is given. -/
def whole (fs : FileSystem) (first : Token) (arguments : List Octets) : Except String Bool := do
  let (b, rest) ← part fs (8 * (arguments.length + 2)) .alternatives first arguments
  match rest with
  | last :: _ :: _ => throw (complaint last "unexpected operator")
  | _ => return b

/-- Whether a test holds. Three or four arguments have rules of their own. -/
def holds (fs : FileSystem) (arguments : List Octets) : Except String Bool :=
  let opening : Octets := ['(']
  let closing : Octets := [')']
  let usual (arguments : List Octets) : Except String Bool :=
    match arguments with
    | [] => .ok false
    | [a, o, b] =>
      if operator o = .binary then whole fs .operand arguments
      else if a = opening && b = closing then whole fs (token [o]) [o]
      else whole fs (token arguments) arguments
    | [a, x, y, b] =>
      if a = opening && b = closing then whole fs (token [x, y]) [x, y]
      else whole fs (token arguments) arguments
    | arguments => whole fs (token arguments) arguments
  match arguments with
  | [['!'], x, y, z] => (usual [x, y, z]).map (!·)
  | [['!'], x, y] =>
    if operator x = .binary then usual arguments else (usual [x, y]).map (!·)
  | arguments => usual arguments

end CallbackWeave.Utility.Condition

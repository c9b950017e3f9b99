import CallbackWeave.Awk.Program
import CallbackWeave.Number.Leading
import CallbackWeave.Number.Rounded

/-!
The tokens of programs. A slash divides behind something that has a value, and anywhere else begins a
regular expression.
-/

namespace CallbackWeave.Awk

/-- A token. -/
inductive Token where
  | number (value : Float)
  | text (value : Octets)
  | regex (text : Octets)
  | name (text : Octets)
  /-- A name with a parenthesis right behind it. -/
  | call (name : Octets)
  | builtin (name : Octets)
  | word (text : String)
  | sign (text : String)
  | newline
  | finish
deriving Repr, Inhabited

namespace Token

/-- The words with a meaning of their own. -/
def words : List String :=
  ["BEGIN", "END", "function", "if", "else", "while", "for", "do", "break", "continue", "next",
    "nextfile", "exit", "return", "delete", "in", "getline", "print", "printf"]

/-- The functions that need no definition. -/
def builtins : List String :=
  ["length", "substr", "index", "split", "match", "sub", "gsub", "sprintf", "sin", "cos", "atan2", "exp",
    "log", "sqrt", "int", "rand", "srand", "tolower", "toupper", "system", "close", "fflush"]

/-- The signs, longer ones first. -/
def signs : List String :=
  ["&&", "||", "==", "!=", "<=", ">=", "++", "--", "+=", "-=", "*=", "/=", "%=", "^=", "!~", ">>",
    "\x7b", "\x7d", "(", ")", "[", "]", ";", ",", "+", "-", "*", "/", "%", "^", "!", ">", "<", "|", "?",
    ":", "~", "$", "="]

/-- Whether a slash behind a token divides. -/
def isOperand : Token → Bool
  | number _ | text _ | regex _ | name _ | builtin _ => true
  | sign s => [")", "]", "$", "++", "--"].contains s
  | word w => w = "getline"
  | _ => false

/-- A token as it is told of. -/
def shown : Token → String
  | number x => String.ofList (Number.written x .general 6 false).2
  | text t => "\"" ++ t.toText ++ "\""
  | regex t => "/" ++ t.toText ++ "/"
  | name t | call t | builtin t => t.toText
  | word w | sign w => w
  | newline => "end of line"
  | finish => "end of file"

/-- The characters of escapes of a single letter. -/
def letterEscapes : List (Char × Char) :=
  [('"', '"'), ('\\', '\\'), ('a', '\x07'), ('b', '\x08'), ('f', '\x0c'), ('n', '\n'), ('r', '\r'),
    ('t', '\t'), ('v', '\x0b')]

/-- A text with its escapes replaced; backslashes that escape nothing stay. `skip` is the number of
characters that belong to an escape before. -/
def unescaped : Nat → Octets → Octets
  | _, [] => []
  | skip + 1, _ :: rest => unescaped skip rest
  | 0, '\\' :: rest =>
    match rest with
    | [] => ['\\']
    | c :: more =>
      let number (base most : Nat) (digits : Octets) : Octets :=
        (digits.take most).takeWhile fun d => (Number.digitValue? base d).isSome
      let octal := number 8 3 rest
      let hexadecimal := if c = 'x' then number 16 2 more else []
      let code (base : Nat) (digits : Octets) : Char :=
        Char.ofNat ((Number.natOfDigits? base digits).getD 0 % 256)
      match letterEscapes.lookup c with
      | some d => d :: unescaped 1 rest
      | none =>
        if !octal.isEmpty then code 8 octal :: unescaped octal.length rest
        else if !hexadecimal.isEmpty then
          code 16 hexadecimal :: unescaped (1 + hexadecimal.length) rest
        else if c = '\n' then unescaped 1 rest
        else '\\' :: unescaped 0 rest
  | 0, c :: rest => c :: unescaped 0 rest

/-- A text up to the quote that ends it, with its escapes, and what follows the quote. -/
def quoted : Octets → Option (Octets × Octets)
  | [] | ['\\'] => none
  | '"' :: rest => some ([], rest)
  | '\\' :: c :: rest => (quoted rest).map fun (value, rest) => ('\\' :: c :: value, rest)
  | c :: rest =>
    if c = '\n' then none else (quoted rest).map fun (value, rest) => (c :: value, rest)

/-- A regular expression up to the slash that ends it, and what follows the slash. Slashes in brackets
do not end it; the first flag says that this is in brackets, and the second that they have just begun. -/
def slashed : Bool → Bool → Octets → Option (Octets × Octets)
  | _, _, [] | _, _, ['\\'] => none
  | inside, _, '\\' :: c :: rest =>
    let front : Octets := if c = '/' then ['/'] else ['\\', c]
    (slashed inside false rest).map fun (value, rest) => (front ++ value, rest)
  | inside, begins, c :: rest =>
    if c = '\n' then none
    else if c = '/' && !inside then some ([], rest)
    else
      let inside' := if inside then !(c = ']' && !begins) else c = '['
      let begins' := (!inside && c = '[') || (begins && c = '^')
      (slashed inside' begins' rest).map fun (value, rest) => (c :: value, rest)

/-- A character of a name. -/
def isNameChar (c : Char) : Bool := c.isAlphanum || c = '_'

/-- The token that a name is, given what follows it. -/
def ofName (name : Octets) (next : Option Char) : Token :=
  let word := String.ofList name
  if words.contains word then .word word
  else if builtins.contains word then .builtin name
  else if next = some '(' then .call name
  else .name name

/-- The tokens of a program, each with the number of its line. `last` is the token before, and `fuel`
bounds the steps. -/
def read : Nat → Token → Nat → Octets → Except String (List (Token × Nat))
  | 0, _, line, _ => .ok [(finish, line)]
  | _, _, line, [] => .ok [(finish, line + 1)]
  | fuel + 1, last, line, c :: rest =>
    let add (t : Token) (rest : Octets) : Except String (List (Token × Nat)) := do
      return (t, line) :: (← read fuel t line rest)
    let fail (message : String) : Except String (List (Token × Nat)) :=
      .error ("line " ++ toString line ++ ": " ++ message)
    let cut (value : Octets) : String := Octets.toText (value.take 10) ++ " ..."
    if c = '\n' then do return (newline, line) :: (← read fuel newline (line + 1) rest)
    else if c = ' ' || c = '\t' || c = '\r' then read fuel last line rest
    else if c = '#' then read fuel last line (rest.dropWhile (· ≠ '\n'))
    else if c = '\\' && rest.head? = some '\n' then read fuel last (line + 1) (rest.drop 1)
    else if c = '"' then
      match quoted rest with
      | some (value, rest) => add (.text (unescaped 0 value)) rest
      | none => fail ("runaway string constant " ++ cut (c :: rest))
    else if c = '/' && !last.isOperand then
      match slashed false false rest with
      | some (value, rest) => add (.regex value) rest
      | none => fail ("runaway regular expression " ++ cut (c :: rest))
    else if c.isDigit || c = '.' && (rest.head?.any Char.isDigit) then
      let length := Number.literalLength (c :: rest)
      let value := ((Number.leading? ((c :: rest).take length)).map Prod.fst).getD 0.0
      add (.number value) ((c :: rest).drop length)
    else if isNameChar c then
      let name := (c :: rest).takeWhile isNameChar
      let rest := (c :: rest).drop name.length
      add (ofName name rest.head?) rest
    else
      match signs.find? fun s => s.toList.isPrefixOf (c :: rest) with
      | some s => add (.sign s) ((c :: rest).drop s.length)
      | none =>
        .error (toString line ++ ": unexpected character '" ++ Octets.toText [c] ++ "'")

/-- The tokens of a program. -/
def ofText (text : Octets) : Except String (List (Token × Nat)) :=
  read (text.length + 1) newline 1 text

end Token

end CallbackWeave.Awk

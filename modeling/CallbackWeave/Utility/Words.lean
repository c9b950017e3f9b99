import CallbackWeave.Regex.Reader
import CallbackWeave.Utility.Condition
import CallbackWeave.Utility.Files
import CallbackWeave.Utility.Printf

/-!
Programs that compute with their arguments and write the result, and those that tell about the host.
-/

namespace CallbackWeave.Utility

/-! ## Texts -/

namespace Echo

/-- Takes the options at the front of the arguments: whether the line is left open, and whether escapes
are replaced. -/
def readOptions (isOpen escapes : Bool) : List Octets → Bool × Bool × List Octets
  | ('-' :: letters) :: rest =>
    if !letters.isEmpty && letters.all "neE".toList.contains then
      let escapes := match letters.reverse.find? (· ≠ 'n') with
        | some c => c = 'e'
        | none => escapes
      readOptions (isOpen || letters.contains 'n') escapes rest
    else (isOpen, escapes, ('-' :: letters) :: rest)
  | rest => (isOpen, escapes, rest)

/-- Writes the arguments. -/
def run (arguments : List Octets) : Task Nat := do
  let (isOpen, escapes, words) := readOptions false false arguments
  let text := [' '].intercalate words
  let (text, ends) := if escapes then Printf.unescaped .program text.length text else (text, false)
  Task.print (text ++ if isOpen || ends then [] else ['\n'])
  return 0

end Echo

/-- Writes a format. -/
def runPrintf (arguments : List Octets) : Task Nat := do
  let arguments := if arguments.head? = some ['-', '-'] then arguments.drop 1 else arguments
  match arguments with
  | [] => misuse 1 "missing operand"
  | format :: values =>
    let done := Printf.run .program format values
    done.complaints.forM Task.complain
    Task.print done.output
    return done.status

/-- Tests a condition; in brackets the last argument has to close them. -/
def runCondition (inBrackets : Bool) (arguments : List Octets) : Task Nat := do
  if inBrackets && arguments.getLast? ≠ some [']'] then
    Task.complain "missing ']'"
    return 2
  match Condition.holds (← Task.files) (if inBrackets then arguments.dropLast else arguments) with
  | .ok holds => return if holds then 0 else 1
  | .error message => Task.complain message; return 2

/-! ## Paths -/

namespace BaseName

def options : OptionTable :=
  ⟨"as:z", [("multiple", 'a', .none), ("suffix", 's', .required), ("zero", 'z', .none)], false⟩

/-- The last name of a path without an ending. -/
def base (ending name : Octets) : Octets :=
  let last := if !name.isEmpty && name.all (· = '/') then ['/'] else lastName name
  if ending.isSuffixOf last && ending.length < last.length then
    last.take (last.length - ending.length)
  else last

/-- Writes the last names of paths. -/
def run (p : Parsed) : Task Nat := do
  match p.operands with
  | [] => misuse 1 "missing operand"
  | first :: others =>
    let write (ending name : Octets) : Task Unit :=
      Task.print (base ending name ++ if p.has 'z' then ['\x00'] else ['\n'])
    if p.has 'a' || p.has 's' then
      p.operands.forM (write ((p.value? 's').getD []))
      return 0
    else
      match others with
      | _ :: extra :: _ => misuse 1 ("extra operand " ++ quoted extra)
      | others =>
        write (others.headD []) first
        return 0

/-- The path of what a path stands in. -/
def directory (name : Octets) : Octets :=
  let strip (text : Octets) : Octets := (text.reverse.dropWhile (· = '/')).reverse
  let trimmed := strip name
  if trimmed.isEmpty then if name.isEmpty then ['.'] else ['/']
  else
    let above := trimmed.take (trimmed.length - (lastName trimmed).length)
    if above.isEmpty then ['.'] else if (strip above).isEmpty then ['/'] else strip above

/-- Writes the paths of what paths stand in. -/
def runDirectory (p : Parsed) : Task Nat := do
  if p.operands.isEmpty then misuse 1 "missing operand"
  else
    p.operands.forM fun name => Task.printLine (directory name)
    return 0

end BaseName

/-! ## Expressions -/

namespace Expression

/-- What a part of an expression gives. -/
abbrev Result := Except (Nat × String)

/-- The integer that a text writes. -/
def integer? (text : Octets) : Option Int :=
  match text with
  | '-' :: digits => (Number.natOfDigits? 10 digits).map fun n => -(n : Int)
  | digits => (Number.natOfDigits? 10 digits).map Int.ofNat

/-- Whether a text counts as false. -/
def isNull (text : Octets) : Bool :=
  text.isEmpty || (match text with
    | '-' :: digits => !digits.isEmpty && digits.all (· = '0')
    | digits => digits.all (· = '0'))

/-- The result of a match at the front of a text: the group if there is one, or the length. -/
def matchFront (text pattern : Octets) : Result Octets :=
  match Regex.read .basic pattern with
  | .error fault => .error (2, fault.message)
  | .ok r =>
    let s := Subject.ofText text false
    match r.ends s ⟨0, []⟩ with
    | best :: _ => .ok (if r.groupCount > 0 then best.groupText s 0 1 else Octets.ofNat best.stop)
    | [] => .ok (if r.groupCount > 0 then [] else ['0'])

/-- The result of an operator. -/
def apply (operator : String) (a b : Octets) : Result Octets :=
  let truth (b : Bool) : Octets := if b then ['1'] else ['0']
  let compared (p : Ordering → Bool) : Result Octets :=
    .ok (truth (p (match integer? a, integer? b with
      | some x, some y => compare x y
      | _, _ => if a = b then .eq else if a.precedes b then .lt else .gt)))
  let computed (f : Int → Int → Result Int) : Result Octets :=
    match integer? a, integer? b with
    | some x, some y => (f x y).map Octets.ofInt
    | _, _ => .error (2, "non-integer argument")
  let divided (f : Int → Int → Int) (x y : Int) : Result Int :=
    if y = 0 then .error (2, "division by zero") else .ok (f x y)
  match operator with
  | "|" => .ok (if isNull a then if isNull b then ['0'] else b else a)
  | "&" => .ok (if isNull a || isNull b then ['0'] else a)
  | "<" => compared (· = .lt)
  | "<=" => compared (· ≠ .gt)
  | "=" | "==" => compared (· = .eq)
  | "!=" => compared (· ≠ .eq)
  | ">=" => compared (· ≠ .lt)
  | ">" => compared (· = .gt)
  | "+" => computed fun x y => .ok (x + y)
  | "-" => computed fun x y => .ok (x - y)
  | "*" => computed fun x y => .ok (x * y)
  | "/" => computed (divided Int.tdiv)
  | "%" => computed (divided Int.tmod)
  | _ => matchFront a b

/-- The operators, weakest first. -/
def levels : List (List String) :=
  [["|"], ["&"], ["<", "<=", "=", "==", "!=", ">=", ">"], ["+", "-"], ["*", "/", "%"], [":"]]

/-- A complaint that something is missing behind an argument. -/
def missing (before : Option Octets) : Nat × String :=
  (2, match before with
    | some argument => "syntax error: missing argument after " ++ quoted argument
    | none => "missing operand")

/-- Takes what operators join to an operand. `fuel` bounds the operands. -/
def joined (operators : List String) (operand : Option Octets → List Octets → Result (Octets × List Octets)) :
    Nat → Octets → List Octets → Result (Octets × List Octets)
  | 0, value, rest => .ok (value, rest)
  | fuel + 1, value, rest =>
    match rest with
    | mark :: more =>
      if operators.contains (String.ofList mark) then do
        let (right, rest) ← operand (some mark) more
        joined operators operand fuel (← apply (String.ofList mark) value right) rest
      else .ok (value, rest)
    | [] => .ok (value, [])

/-- Takes an expression whose operators are of some levels. `fuel` bounds its depth. -/
def part : Nat → List (List String) → Option Octets → List Octets → Result (Octets × List Octets)
  | 0, _, before, _ => .error (missing before)
  | fuel + 1, operators :: tighter, before, words => do
    let (first, rest) ← part fuel tighter before words
    joined operators (part fuel tighter) words.length first rest
  | fuel + 1, [], before, words =>
    match words with
    | [] => .error (missing before)
    | word :: rest =>
      let operand : Result (Octets × List Octets) := part fuel [] (some word) rest
      match String.ofList word with
      | "(" => do
        let (value, rest) ← part fuel levels (some word) rest
        match rest with
        | [')'] :: rest => return (value, rest)
        | other :: _ => throw (2, "syntax error: expecting ')' instead of " ++ quoted other)
        | [] => throw (2, "syntax error: expecting ')' after " ++ quoted value)
      | ")" => .error (2, "syntax error: unexpected ')'")
      | "+" =>
        match rest with
        | text :: rest => .ok (text, rest)
        | [] => .error (missing (some word))
      | "length" => do
        let (text, rest) ← operand
        return (Octets.ofNat text.length, rest)
      | "match" => do
        let (text, rest) ← operand
        let (pattern, rest) ← part fuel [] (some word) rest
        return (← matchFront text pattern, rest)
      | "index" => do
        let (text, rest) ← operand
        let (characters, rest) ← part fuel [] (some word) rest
        let front := text.takeWhile (!characters.contains ·)
        return (Octets.ofNat (if front.length = text.length then 0 else front.length + 1), rest)
      | "substr" => do
        let (text, rest) ← operand
        let (first, rest) ← part fuel [] (some word) rest
        let (count, rest) ← part fuel [] (some word) rest
        match integer? first, integer? count with
        | some a, some n =>
          return (if a ≤ 0 || n ≤ 0 then [] else (text.drop (a.toNat - 1)).take n.toNat, rest)
        | _, _ => return ([], rest)
      | _ => .ok (word, rest)

/-- Writes the value of an expression. -/
def run (arguments : List Octets) : Task Nat := do
  let arguments := if arguments.head? = some ['-', '-'] then arguments.drop 1 else arguments
  if arguments.isEmpty then misuse 2 "missing operand"
  else
    match part (8 * (arguments.length + 2)) levels none arguments with
    | .error (status, message) => Task.complain message; return status
    | .ok (_, extra :: _) =>
      Task.complain ("syntax error: unexpected argument " ++ quoted extra)
      return 2
    | .ok (value, []) =>
      Task.printLine value
      return if isNull value then 1 else 0

end Expression

/-! ## Sequences -/

namespace Sequence

/-- A decimal: a number of units, each a power of ten that its places give. -/
structure Decimal where
  units : Int
  places : Nat

/-- Reads a decimal. -/
def Decimal.ofText? (text : Octets) : Option Decimal :=
  (Number.Literal.ofChars? text).map fun l =>
    let units : Int := if l.negative then -(l.digits : Int) else l.digits
    if l.exponent ≤ 0 then ⟨units, (-l.exponent).toNat⟩ else ⟨units * Int.pow 10 l.exponent.toNat, 0⟩

/-- The units of a decimal at a number of places. -/
def Decimal.scaled (d : Decimal) (places : Nat) : Int := d.units * Int.pow 10 (places - d.places)

/-- The text of a number of units at a number of places. -/
def text (places : Nat) (units : Int) : Octets :=
  let digits := Number.padded (places + 1) (Nat.toDigits 10 units.natAbs)
  let whole := digits.length - places
  (if units < 0 then ['-'] else []) ++ digits.take whole
    ++ if places = 0 then [] else '.' :: digits.drop whole

/-- The numbers from one to another. -/
def values (first step last : Int) : List Int :=
  if step > 0 && first ≤ last || step < 0 && last ≤ first then
    (List.range ((Int.tdiv (last - first) step).toNat + 1)).map fun (i : Nat) => first + step * i
  else []

def options : OptionTable :=
  ⟨"f:s:w", [("format", 'f', .required), ("separator", 's', .required), ("equal-width", 'w', .none)],
    false⟩

/-- Writes numbers from one to another. -/
def run (p : Parsed) : Task Nat := do
  let write (first step last : Decimal) : Task Nat := do
    if step.units = 0 then
      Task.complain ("invalid Zero increment value: " ++ quoted (p.operands.getD 1 []))
      return 1
    let shownPlaces := max first.places step.places
    let places := max shownPlaces last.places
    let numbers := values (first.scaled places) (step.scaled places) (last.scaled places)
    let scale := Int.pow 10 (places - shownPlaces)
    let texts := numbers.map fun n => text shownPlaces (Int.tdiv n scale)
    let width := ((text shownPlaces (Int.tdiv (first.scaled places) scale)).length).max
      ((text shownPlaces (Int.tdiv (last.scaled places) scale)).length)
    let widen (t : Octets) : Octets :=
      match t with
      | '-' :: digits => '-' :: Octets.padLeft (width - 1) '0' digits
      | digits => Octets.padLeft width '0' digits
    let texts := match p.value? 'f' with
      | some format => texts.map fun t => (Printf.run .program format [t]).output
      | none => if p.has 'w' then texts.map widen else texts
    if !texts.isEmpty then Task.print (((p.value? 's').getD ['\n']).intercalate texts ++ ['\n'])
    return 0
  match p.operands.mapM fun o => (Decimal.ofText? o) with
  | none =>
    let bad := (p.operands.find? fun o => (Decimal.ofText? o).isNone).getD []
    misuse 1 ("invalid floating point argument: " ++ quoted bad)
  | some [last] => write ⟨1, 0⟩ ⟨1, 0⟩ last
  | some [first, last] => write first ⟨1, 0⟩ last
  | some [first, step, last] => write first step last
  | some [] => misuse 1 "missing operand"
  | some _ => misuse 1 ("extra operand " ++ quoted (p.operands.getD 3 []))

/-- The arguments with a mark behind which a negative number is no option. -/
def marked (arguments : List Octets) : List Octets :=
  let isNumber (a : Octets) : Bool :=
    match a with
    | '-' :: c :: _ => c.isDigit || c = '.'
    | _ => false
  let front := arguments.takeWhile (!isNumber ·)
  match arguments.drop front.length with
  | [] => arguments
  | rest => if front.contains ['-', '-'] then arguments else front ++ ['-', '-'] :: rest

end Sequence

/-- The octets that a pipe takes before somebody has to read it. -/
def pipeCapacity : Nat := 65536

/-- Writes a line again and again, up to where nobody has read it. -/
def runYes (arguments : List Octets) : Task Nat := do
  let line := (if arguments.isEmpty then ['y'] else [' '].intercalate arguments) ++ ['\n']
  Task.print (List.replicate (pipeCapacity / line.length + 1) line).flatten
  return 0

/-! ## The environment -/

/-- Writes the values of variables of the environment. -/
def runPrintEnvironment (arguments : List Octets) : Task Nat := do
  let environment := (← read).environment
  if arguments.isEmpty then
    environment.forM fun (name, value) => Task.printLine (name ++ '=' :: value)
    return 0
  else
    let found := arguments.map fun name => environment.lookup name
    found.forM fun value => value.forM Task.printLine
    return if found.all Option.isSome then 0 else 1

/-- Writes the paths of programs. -/
def runWhich (arguments : List Octets) : Task Nat := do
  let names := arguments.filter (· ≠ "-a".toList)
  let fs ← Task.files
  let directories := ((← read).setting? "PATH").getD Context.usualDirectories
  let runs (path : Octets) : Bool := Condition.fileIs fs "-x" path && fs.isFile path.toPath
  let results ← names.mapM fun name => do
    let found := if name.contains '/' then if runs name then some name else none
      else (Context.candidates directories name).find? runs
    found.forM Task.printLine
    return found.isSome
  return if results.all id && !names.isEmpty then 0 else 1

/-- Writes the path of the working directory. -/
def runWorkingDirectory (arguments : List Octets) : Task Nat := do
  let c ← read
  let physical := locationPath c.site.workingDirectory
  let logical := c.setting? "PWD"
  let fs ← Task.files
  let fits := logical.any fun path =>
    path.head? = some '/' && fs.canonical? path.toPath = some c.site.workingDirectory
  Task.printLine (if arguments.contains "-L".toList && fits then logical.getD [] else physical)
  return 0

end CallbackWeave.Utility

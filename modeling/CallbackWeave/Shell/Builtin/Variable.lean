import CallbackWeave.Shell.Expansion

/-!
The commands of a shell that change its variables and options, or where a script goes on.
-/

namespace CallbackWeave.Shell

open Act

/-- A built-in command: it takes its arguments and leaves a status. -/
abbrev Builtin := List Octets → Act Unit

/-- A text in single quotes, as it can be read again. -/
def singleQuoted (text : Octets) : Octets :=
  '\'' :: text.flatMap (fun c => if c = '\'' then "'\"'\"'".toList else [c]) ++ ['\'']

/-- A name with a value that can be read again. -/
def bindingText (name : Octets) (value : Option Octets) : Octets :=
  match value with
  | some value => name ++ '=' :: singleQuoted value
  | none => name

/-- Writes lines to the output. -/
def printLines (lines : List Octets) : Act Unit := perform (lines.forM Task.printLine)

/-- The number that an argument writes. -/
def naturalArgument (argument : Octets) : Act Nat := do
  match Number.natOfDigits? 10 argument with
  | some n => return n
  | none => fail ("Illegal number: ".toList ++ argument)

namespace Builtin

/-! ## Flow -/

/-- Leaves loops, by the number that the argument gives. -/
def leaveLoops (leave : Nat → Leave) : Builtin := fun arguments => do
  let count ← match arguments with
    | [] => pure 1
    | argument :: _ => naturalArgument argument
  if count = 0 then fail ("Illegal number: ".toList ++ arguments.headD [])
  status 0
  let loops := (← state).loops
  if loops > 0 then throw (leave (min count loops))

/-- Takes the status from the argument, if there is one. -/
def takeStatus (arguments : List Octets) : Act Unit := do
  match arguments with
  | [] => pure ()
  | argument :: _ => status ((← naturalArgument argument) % 256)

def exiting : Builtin := fun arguments => do
  takeStatus arguments
  throw .exiting

def returning : Builtin := fun arguments => do
  takeStatus arguments
  throw (if (← state).calls > 0 then .returning else .exiting)

def shifting : Builtin := fun arguments => do
  let count ← match arguments with
    | [] => pure 1
    | argument :: _ => naturalArgument argument
  if count > (← state).arguments.length then fail "can't shift that many".toList
  update fun s => { s with arguments := s.arguments.drop count, status := 0 }

/-! ## Variables -/

/-- The names of the options and their letters. -/
def optionNames : List (String × Char) :=
  [("errexit", 'e'), ("noglob", 'f'), ("ignoreeof", 'I'), ("interactive", 'i'), ("monitor", 'm'),
    ("noexec", 'n'), ("stdin", 's'), ("xtrace", 'x'), ("verbose", 'v'), ("vi", 'V'), ("emacs", 'E'),
    ("noclobber", 'C'), ("allexport", 'a'), ("notify", 'b'), ("nounset", 'u'), ("nolog", 'l'),
    ("debug", 'D')]

/-- Turns an option on or off. -/
def setOption (on : Bool) (letter : Char) : Act Unit := do
  if (optionNames.map Prod.snd).contains letter then
    update fun s =>
      let others := s.options.filter (· ≠ letter)
      { s with options := if on then letter :: others else others }
  else fail ("Illegal option ".toList ++ [if on then '-' else '+', letter])

/-- Turns an option on or off by its name. -/
def setNamedOption (on : Bool) (name : Octets) : Act Unit := do
  match optionNames.lookup (String.ofList name) with
  | some letter => setOption on letter
  | none => fail ("Illegal option ".toList ++ (if on then '-' else '+') :: "o ".toList ++ name)

/-- Lists the options. -/
def listOptions (on : Bool) : Act Unit := do
  let options := (← state).options
  let line (entry : String × Char) : Octets :=
    let isOn := options.contains entry.2
    if on then Octets.padRight 16 entry.1.toList ++ (if isOn then "on" else "off").toList
    else "set ".toList ++ (if isOn then "-o " else "+o ").toList ++ entry.1.toList
  printLines ((if on then ["Current option settings".toList] else []) ++ optionNames.map line)

/-- Takes the options at the front of arguments. The rest comes with whether it replaces the arguments
of the shell. -/
def takeOptions : List Octets → Act (List Octets × Bool)
  | [] => return ([], false)
  | argument :: rest => do
    match argument with
    | ['-'] =>
      update fun s => { s with options := s.options.filter fun c => c ≠ 'x' && c ≠ 'v' }
      return (rest, !rest.isEmpty)
    | ['-', '-'] => return (rest, true)
    | sign :: letters =>
      if (sign = '-' || sign = '+') && !letters.isEmpty then
        let on : Bool := sign = '-'
        (letters.filter (· ≠ 'o')).forM (setOption on)
        if letters.contains 'o' then
          match rest with
          | [] => listOptions on; return ([], false)
          | name :: rest => setNamedOption on name; takeOptions rest
        else takeOptions rest
      else return (argument :: rest, true)
    | [] => return (argument :: rest, true)

/-- Lists variables in the order of their names. -/
def listVariables (front : String) (p : Variable → Bool) : Act Unit := do
  let found := (← state).bindings.filter (p ·.2)
  let sorted := found.mergeSort fun a b => a.1.precedes b.1
  printLines (sorted.map fun (name, v) => front.toList ++ bindingText name v.value)

def setting : Builtin := fun arguments => do
  if arguments.isEmpty then listVariables "" fun v => v.value.isSome
  else
    let (rest, replaces) ← takeOptions arguments
    if replaces then update fun s => { s with arguments := rest, optionOffset := 0 }
  status 0

/-- A name with the value behind its equals sign. -/
def binding (argument : Octets) : Act (Octets × Option Octets) := do
  let (name, value) := Octets.splitAt '=' argument
  if isName name then return (name, value) else fail (name ++ ": bad variable name".toList)

/-- Marks variables, which may get values at the same time. -/
def mark (front : String) (p : Variable → Bool) (change : Variable → Variable) : Builtin :=
  fun arguments => do
    let arguments := if arguments.head? = some ['-', '-'] then arguments.drop 1 else arguments
    if arguments.isEmpty || arguments = [['-', 'p']] then listVariables front p
    else
      for argument in arguments do
        let (name, value) ← binding argument
        value.forM (assign name)
        update fun s =>
          s.putVariable name (change ((s.bindings.lookup name).getD ⟨none, false, false⟩))
    status 0

def exporting : Builtin := mark "export " Variable.exported fun v => { v with exported := true }
def protecting : Builtin := mark "readonly " Variable.readOnly fun v => { v with readOnly := true }

def unsetting : Builtin := fun arguments => do
  let (functions, names) := match arguments with
    | ['-', 'f'] :: rest => (true, rest)
    | ['-', 'v'] :: rest => (false, rest)
    | ['-', '-'] :: rest => (false, rest)
    | rest => (false, rest)
  for name in names do
    if functions then update fun s => { s with functions := s.functions.filter (·.1 ≠ name) }
    else
      if !isName name then fail (name ++ ": bad variable name".toList)
      if ((← state).bindings.lookup name).any Variable.readOnly then
        fail (name ++ ": is read only".toList)
      update fun s => s.dropVariable name
  status 0

/-- Keeps a variable as it is, to be put back at the end of the function. -/
def keep (name : Octets) : Act Unit :=
  update fun s => { s with saved := (name, s.bindings.lookup name) :: s.saved }

def localizing : Builtin := fun arguments => do
  if !(← state).inFunction then fail "not in a function".toList
  for argument in arguments do
    if argument = ['-'] then pure ()
    else
      let (name, value) ← binding argument
      keep name
      value.forM (assign name)
  status 0

/-- Splits a line into the values of some variables. The last one gets all that is left, unless that
is a single field with its separator. -/
def splitLine (separators : Octets) : Nat → List Glyph → List Octets
  | 0, _ => []
  | count + 1, glyphs =>
    let separates (g : Glyph) : Bool := !g.quoted && separators.contains g.char
    let isBlank (g : Glyph) : Bool := separates g && " \t\n".toList.contains g.char
    let glyphs := glyphs.dropWhile isBlank
    let field := glyphs.takeWhile (!separates ·)
    let rest := (glyphs.drop field.length).dropWhile isBlank
    let after := match rest with
      | g :: more => if separates g then more.dropWhile isBlank else rest
      | [] => []
    if count = 0 then
      let whole := (glyphs.reverse.dropWhile isBlank).reverse
      [Glyph.text (if after.isEmpty then field else whole)]
    else Glyph.text field :: splitLine separators count after

/-- The glyphs of the line at the front of a text, what follows it, and whether the line has an end.
Without `raw` a backslash quotes a character and joins lines. -/
def lineGlyphs (raw : Bool) : Octets → List Glyph × Octets × Bool
  | [] => ([], [], false)
  | '\n' :: rest => ([], rest, true)
  | '\\' :: c :: rest =>
    if raw then
      let (line, after, ended) := lineGlyphs raw (c :: rest)
      (⟨'\\', false⟩ :: line, after, ended)
    else
      let (line, after, ended) := lineGlyphs raw rest
      (if c = '\n' then line else ⟨c, true⟩ :: line, after, ended)
  | c :: rest =>
    let (line, after, ended) := lineGlyphs raw rest
    (if c = '\\' && !raw then line else ⟨c, false⟩ :: line, after, ended)

/-- Takes the options of a reader of lines: whether backslashes are kept, and the names. -/
def readerOptions (raw : Bool) : List Octets → Bool × List Octets
  | ['-', 'r'] :: rest => readerOptions true rest
  | ['-', 'p'] :: _ :: rest => readerOptions raw rest
  | ['-', '-'] :: rest => (raw, rest)
  | rest => (raw, rest)

def reading : Builtin := fun arguments => do
  let (raw, names) := readerOptions false arguments
  if names.isEmpty then fail "arg count".toList
  for name in names do
    if !isName name then fail (name ++ ": bad variable name".toList)
  match ← perform (Task.readAll 0) with
  | .error _ => status 1
  | .ok text =>
    let (glyphs, rest, ended) := lineGlyphs raw text
    perform (Task.putBack 0 rest)
    let values := splitLine (← state).separators names.length glyphs
    (names.zip values).forM fun (name, value) => assign name value
    status (if ended then 0 else 1)

/-- The next option letter of an argument, of which some letters have been looked at, with its value:
`none` if there are no more options, and otherwise the letter, its value, how many arguments have been
used up, and the letters of the argument under way that have been looked at. -/
def nextOption (letters : Octets) (arguments : List Octets) (offset : Nat) :
    Option (Char × Option Octets × Nat × Nat) :=
  match arguments with
  | ('-' :: c :: more) :: values =>
    if c = '-' && more.isEmpty then none
    else
      match (c :: more).drop offset with
      | [] => none
      | letter :: tail =>
        let onward : Nat × Nat := if tail.isEmpty then (1, 0) else (0, offset + 1)
        match letters.dropWhile (· ≠ letter) with
        | found :: ':' :: _ =>
          if found = ':' then some (letter, none, onward.1, onward.2)
          else if tail.isEmpty then
            match values with
            | value :: _ => some (letter, some value, 2, 0)
            | [] => some (letter, none, 1, 0)
          else some (letter, some tail, 1, 0)
        | _ => some (letter, none, onward.1, onward.2)
  | _ => none

def choosing : Builtin := fun arguments => do
  match arguments with
  | letters :: name :: given =>
    let s ← state
    let arguments := if given.isEmpty then s.arguments else given
    let (quiet, letters) := match letters with
      | ':' :: rest => (true, rest)
      | rest => (false, rest)
    let next := (Number.natOfDigits? 10 (s.valueOf "OPTIND")).getD 1
    let offset := s.optionOffset
    let index := if offset > 0 then next - 1 else next
    let giveUp : Act Unit := do
      if arguments[index - 1]? = some ['-', '-'] then
        assign "OPTIND".toList (Octets.ofNat (index + 1))
      assign name ['?']
      update fun s => s.dropVariable "OPTARG".toList
      status 1
    match nextOption letters (arguments.drop (index - 1)) offset with
    | none => giveUp
    | some (letter, value, used, looked) =>
      assign "OPTIND".toList (Octets.ofNat (index + used + if looked > 0 then 1 else 0))
      update fun s => { s with optionOffset := looked }
      let isKnown := letter ≠ ':' && letters.contains letter
      let needsValue := isKnown && ((letters.dropWhile (· ≠ letter)).drop 1).head? = some ':'
      let complain (text : String) : Act Unit := do
        if !quiet then perform (Task.writeTo 2 (text.toList ++ [letter, '\n']))
        assign name (if quiet && isKnown then [':'] else ['?'])
        if quiet then assign "OPTARG".toList [letter]
        else update fun s => s.dropVariable "OPTARG".toList
      if !isKnown then complain "Illegal option -"
      else if needsValue && value.isNone then complain "No arg for -"
      else
        assign name [letter]
        assign "OPTARG".toList (value.getD [])
      status 0
  | _ => fail "Usage: getopts optstring var [arg]".toList

end Builtin

end CallbackWeave.Shell

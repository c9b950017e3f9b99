/-!
Arguments of a command line: flags, options with a value, and positional arguments. What follows a
double hyphen is positional, or belongs to a command of its own.
-/

namespace CallbackWeave.CommandLine

/-- What a command accepts. -/
structure Grammar where
  /-- The flags, by their names and their letters. -/
  flags : List (String × Option Char)
  /-- The options with a value that is not empty. -/
  options : List (String × Option Char)
  /-- The number of positional arguments, none of which may be left out or empty. -/
  positionals : Nat
  /-- Whether a command may follow a double hyphen. -/
  takesCommand : Bool
deriving Repr

/-- Why arguments are not worked on. -/
inductive Stop where
  /-- They are not as they should be. -/
  | misuse
  /-- They ask for the version. -/
  | version
  /-- They ask for help. -/
  | help
deriving DecidableEq, Repr

/-- The arguments of a command. -/
structure Found where
  flags : List String
  options : List (String × String)
  positionals : List String
  command : List String
deriving DecidableEq, Repr

namespace Found

/-- No arguments yet. -/
def empty : Found := ⟨[], [], [], []⟩

/-- The value of an option. -/
def option? (f : Found) (name : String) : Option String := f.options.lookup name

/-- Adds a flag, which may be given once. -/
def addFlag (f : Found) (name : String) : Except Stop Found :=
  if name = "help" then .error .help
  else if name = "version" then .error .version
  else if f.flags.contains name then .error .misuse
  else .ok { f with flags := f.flags ++ [name] }

/-- Adds an option, which may be given once. -/
def addOption (f : Found) (name value : String) : Except Stop Found :=
  if value.isEmpty || (f.option? name).isSome then .error .misuse
  else .ok { f with options := f.options ++ [(name, value)] }

/-- Adds a positional argument. -/
def addPositional (g : Grammar) (f : Found) (value : String) : Except Stop Found :=
  if value.isEmpty || f.positionals.length ≥ g.positionals then .error .misuse
  else .ok { f with positionals := f.positionals ++ [value] }

end Found

/-- The name that a letter stands for. -/
def nameOf? (table : List (String × Option Char)) (letter : Char) : Option String :=
  (table.find? fun entry => entry.2 = some letter).map (·.1)

/-- Takes letters after a hyphen. The second value is an option that still lacks its value. -/
def takeLetters (g : Grammar) (f : Found) : List Char → Except Stop (Found × Option String)
  | [] => .ok (f, none)
  | letter :: rest =>
    match nameOf? g.flags letter, nameOf? g.options letter with
    | some name, _ => do takeLetters g (← f.addFlag name) rest
    | none, some name =>
      match rest with
      | [] => if (f.option? name).isSome then .error .misuse else .ok (f, some name)
      | '=' :: value => (f.addOption name (String.ofList value)).map fun f => (f, none)
      | value => (f.addOption name (String.ofList value)).map fun f => (f, none)
    | none, none => .error .misuse

/-- Takes a name after two hyphens, with a value if an equals sign follows it. -/
def takeName (g : Grammar) (f : Found) (text : List Char) :
    Except Stop (Found × Option String) :=
  let name := String.ofList (text.takeWhile (· ≠ '='))
  let value := match text.dropWhile (· ≠ '=') with
    | _ :: value => some (String.ofList value)
    | [] => none
  let isFlag := (g.flags.lookup name).isSome
  let isOption := (g.options.lookup name).isSome
  match value with
  | none =>
    if isFlag then (f.addFlag name).map fun f => (f, none)
    else if isOption && (f.option? name).isNone then .ok (f, some name)
    else .error .misuse
  | some value =>
    if isOption then (f.addOption name value).map fun f => (f, none) else .error .misuse

/-- Takes arguments after a double hyphen. -/
def takeTrailing (g : Grammar) (f : Found) (arguments : List String) : Except Stop Found :=
  if g.takesCommand then .ok { f with command := arguments }
  else arguments.foldlM (Found.addPositional g) f

/-- Takes arguments. `pending` is an option that still lacks its value, which cannot begin with a
hyphen unless it is one. -/
def takeArguments (g : Grammar) : Option String → Found → List String → Except Stop Found
  | pending, f, [] => if pending.isSome then .error .misuse else .ok f
  | pending, f, argument :: rest =>
    match argument.toList, pending with
    | ['-', '-'], none => takeTrailing g f rest
    | ['-', '-'], some _ => .error .misuse
    | '-' :: _ :: _, some _ => .error .misuse
    | '-' :: '-' :: text, none => do
      let (f, pending) ← takeName g f text
      takeArguments g pending f rest
    | '-' :: letter :: letters, none => do
      let (f, pending) ← takeLetters g f (letter :: letters)
      takeArguments g pending f rest
    | _, some name => do takeArguments g none (← f.addOption name argument) rest
    | _, none => do takeArguments g none (← f.addPositional g argument) rest

/-- The arguments of a command, none of which is missing. -/
def Grammar.read (g : Grammar) (arguments : List String) : Except Stop Found := do
  let f ← takeArguments g none .empty arguments
  if f.positionals.length < g.positionals then throw .misuse
  return f

end CallbackWeave.CommandLine

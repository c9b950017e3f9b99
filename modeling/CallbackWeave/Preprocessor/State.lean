import CallbackWeave.Preprocessor.Macro

/-!
What is held while a source is read, and how tokens are printed: each one on the line where it was
written, as far as empty lines or a line that tells the number can do that.
-/

namespace CallbackWeave.Preprocessor

/-- A condition whose end has not been reached. -/
structure Branch where
  /-- Whether the whole of it is left out. -/
  outside : Bool
  /-- Whether no further part of it is taken. -/
  taken : Bool
  /-- Whether its last part has begun. -/
  last : Bool

/-- A file that is being read. -/
structure Frame where
  /-- What is left of it. -/
  tokens : List Token
  path : Octets
  /-- The name under which it is told of, and what is added to the numbers of its lines. -/
  name : Octets
  shift : Int
  /-- The marks that tell of a file of the system. -/
  marks : Octets
  branches : List Branch
  /-- The name that keeps it from being read twice. -/
  guard : Option Octets
  /-- The line of the file outside that comes next. -/
  resume : Nat
  /-- What marks of lines return to: the name, the number of the next line, and the marks. -/
  returns : List (Octets × Nat × Octets)

/-- The number of a line as it is told. -/
def Frame.lineOf (f : Frame) (line : Nat) : Nat := ((line : Int) + f.shift).toNat

/-- Tokens that have taken the place of others. -/
structure Expansion where
  /-- The name that was replaced. -/
  name : Option Octets
  /-- Where it stood. -/
  place : Option Place
  tokens : List Token

/-- Whether arguments are read. -/
inductive Stage where
  | outside
  /-- A parenthesis is looked for. -/
  | opening
  | collecting
deriving DecidableEq, Repr

/-- What has been printed last. -/
structure Printer where
  /-- What has been printed, last part first. -/
  output : List Octets
  /-- Whether something stands in the line under way. -/
  printed : Bool
  line : Nat
  previous : Option Token
  /-- Whether white space stands before what the padding that was passed stems from. -/
  source : Option Bool
  /-- Whether padding has been passed. -/
  padded : Bool
  /-- Whether the last token was one of a file of the system. -/
  ofSystem : Bool

/-- What does not change. -/
structure Settings where
  /-- Whether lines are told of. -/
  marked : Bool
  base : Octets
  /-- The directories for names in quotes only, and those for all names with the marks of their files. -/
  quoteDirectories : List Octets
  directories : List (Octets × Octets)
  /-- The content of a file. -/
  content? : Octets → Option Octets

/-- What is held while a source is read. -/
structure State where
  frames : List Frame
  expansions : List Expansion
  /-- The names that are being replaced. -/
  busy : List Octets
  macros : List (Octets × Macro)
  /-- Whether only the expansions are read, and not the file. -/
  closed : Bool
  inDirective : Bool
  /-- Whether names are left as they are. -/
  holds : Bool
  stage : Stage
  skipping : Bool
  counter : Nat
  /-- The files that are read once only, and those for which a name says whether they are read. -/
  once : List Octets
  guards : List (Octets × Octets)
  /-- The files of which something has been read, the last one first, with their marks. -/
  opened : List (Octets × Octets)
  /-- The definitions that were put aside. -/
  saved : List (Octets × Option Macro)
  printer : Printer
  /-- What has been told, last message first, and whether it was of errors. -/
  messages : List Octets
  failed : Bool

/-- A step, which may end everything. -/
abbrev Act := ReaderT Settings (ExceptT Unit (StateM State))

namespace Act

/-- Looks up a name. -/
def macro? (name : Octets) : Act (Option Macro) := do return (← get).macros.lookup name

/-- Gives a name a meaning, or none. -/
def define (name : Octets) (value : Option Macro) : Act Unit :=
  modify fun s =>
    let others := s.macros.filter (·.1 ≠ name)
    { s with macros := (value.map fun m => (name, m)).toList ++ others }

/-- The file under way. -/
def frame? : Act (Option Frame) := do return (← get).frames.head?

/-- Changes the file under way. -/
def changeFrame (f : Frame → Frame) : Act Unit :=
  modify fun s => { s with frames := s.frames.modifyHead f }

/-- The number of a line as it is told. -/
def lineOf (place : Place) : Act Nat := do
  return ((← frame?).map (·.lineOf place.line)).getD place.line

/-- Tells something of a place. -/
def tell (kind message : String) (place : Place) : Act Unit := do
  let name := ((← frame?).map (·.name)).getD []
  let line ← lineOf place
  let text := name ++ ':' :: Octets.ofNat line ++ ':' :: Octets.ofNat place.column
    ++ Octets.ofText (": " ++ kind ++ ": " ++ message ++ "\n")
  modify fun s => { s with messages := text :: s.messages }

/-- Tells of an error. -/
def fail (message : String) (place : Place) : Act Unit := do
  tell "error" message place
  modify fun s => { s with failed := true }

/-- Changes what has been printed. -/
def changePrinter (f : Printer → Printer) : Act Unit :=
  modify fun s => { s with printer := f s.printer }

/-- Prints a text in the line under way. -/
def write (text : Octets) : Act Unit :=
  changePrinter fun p => { p with output := text :: p.output, printed := true }

/-- Ends the line under way, if something stands there. -/
def endLine : Act Unit :=
  changePrinter fun p =>
    if p.printed then { p with output := ['\n'] :: p.output, printed := false, line := p.line + 1 }
    else p

/-- Tells that what follows is a line of a file. -/
def markLine (line : Nat) (marks : Octets) : Act Unit := do
  endLine
  let f ← frame?
  let text : Octets := "# ".toList ++ Octets.ofNat line ++ " \"".toList
    ++ Token.escaped ((f.map (·.name)).getD []) ++ '"' :: marks ++ (f.map (·.marks)).getD [] ++ ['\n']
  if (← read).marked then changePrinter fun p => { p with output := text :: p.output }
  changePrinter fun p => { p with line := line }

/-- Goes to a line, with empty lines if it is not far away. The result says whether the number of the
line had to be told. -/
def goToLine (line : Nat) : Act Bool := do
  endLine
  let p := (← get).printer
  if (← read).marked && p.line ≤ line && line < p.line + 8 then
    changePrinter fun p =>
      { p with output := List.replicate (line - p.line) '\n' :: p.output, line := line }
    return false
  else
    markLine line []
    return true

/-- Goes to the place of a token. -/
def goTo (place : Place) : Act Bool := do
  let told ← goToLine (← lineOf place)
  changePrinter fun p => { p with previous := none, source := none }
  write (List.replicate (place.column - 2) ' ')
  return told

/-- Goes to the line of a token, if that is not the one under way, and prints the white space before
the token. That is some if there was some, or if the token and the one before would be read as others
without it. The result says whether the number of the line had to be told. -/
def approach (t : Token) : Act Bool := do
  let p := (← get).printer
  let isElsewhere := (← lineOf t.place) ≠ p.line && (← read).marked
  let merges := p.previous.any (·.wouldMerge t) || p.previous.isNone && t.isHash
  let isSpaced := if p.padded then p.source.getD t.spaced || merges else t.spaced
  if isElsewhere && (p.padded || t.spaced) then
    let told ← goTo t.place
    write [' ']
    return told
  else
    if isSpaced then write [' ']
    return false

/-- Prints a token. -/
def print (t : Token) : Act Unit := do
  match t.kind with
  | .padding source =>
    changePrinter fun p =>
      let source := if p.source.isNone || p.source = some false && source.isNone then source
        else p.source
      { p with padded := true, source := source }
  | .finish => return
  | _ =>
    let told ← approach t
    let ofSystem := (← frame?).any fun f => !f.marks.isEmpty
    if (← read).marked && !told && (← get).printer.ofSystem ≠ ofSystem then
      let _ ← goTo t.place
      changePrinter fun p => { p with ofSystem := ofSystem }
    write (if t.kind = .name then Token.plainName t.text else t.text)
    changePrinter fun p => { p with padded := false, source := none, previous := some t }

end Act

end CallbackWeave.Preprocessor

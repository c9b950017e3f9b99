import CallbackWeave.Host.Search
import CallbackWeave.Host.Signal
import CallbackWeave.Number.Literal
import CallbackWeave.Shell.Word

/-!
The state of a shell, and the actions on it. An action may leave what it stands in: a loop, a function,
a script or the shell itself.
-/

namespace CallbackWeave.Shell

/-- A variable. -/
structure Variable where
  /-- A variable without a value may still be meant for the environment. -/
  value : Option Octets
  exported : Bool
  readOnly : Bool
deriving DecidableEq, Repr

/-- What a shell knows. -/
structure State where
  /-- What programs see that are started from here. -/
  context : Context
  bindings : List (Octets × Variable)
  functions : List (Octets × Command)
  /-- The names that stand for other text where a command begins, with that text. -/
  aliases : List (Octets × Octets)
  /-- The letters of the options that are on. -/
  options : List Char
  /-- What new files may not be used for. -/
  mask : Nat
  /-- Whether text is written as it is unless an option says that escapes are to be replaced. -/
  plain : Bool
  /-- The name of the script, and its arguments. -/
  name : Octets
  arguments : List Octets
  /-- The path of the working directory as it was entered. -/
  directory : Octets
  /-- The number by which a script knows its shell. -/
  number : Nat
  /-- The status of the last command. -/
  status : Nat
  /-- The status of the last command whose output was taken as a value. -/
  outputStatus : Option Nat
  /-- The loops that are under way, and the functions and scripts inside this one. -/
  loops : Nat
  calls : Nat
  /-- The line of the command under way, and the built-in command that runs. -/
  line : Nat
  command : Option Octets
  /-- The scripts to be run at signals, and at the end under the number zero. -/
  traps : List (Nat × Octets)
  /-- The variables of the function under way, as they were before. -/
  saved : List (Octets × Option Variable)
  inFunction : Bool
  /-- Whether a command may fail here, because something asks for its status. -/
  asked : Bool
  /-- Whether the shell ends with the command under way, so that a program may take its place. -/
  isLast : Bool
  /-- The number of the last command that runs in the background. -/
  lastJob : Option Nat
  /-- How many characters of the argument under way have been looked at for options. -/
  optionOffset : Nat

/-- A command in the background. It is run when somebody waits for it, or at the end. -/
structure Job where
  number : Nat
  /-- What is still to be run. -/
  work : Option (State × Command)
  status : Nat

/-- A shell on a host. -/
structure Session where
  shell : State
  host : Host
  jobs : List Job

/-- Where an action goes instead of to its end. -/
inductive Leave where
  /-- Out of a number of loops. -/
  | breaking (loops : Nat)
  /-- To the next turn of the last of a number of loops. -/
  | continuing (loops : Nat)
  /-- Out of a function or a script inside this one. -/
  | returning
  /-- Out of the shell. -/
  | exiting
  /-- Out of the shell because of a mistake, from which only a built-in command keeps it. -/
  | failing
  | killed (signal : Nat)
deriving DecidableEq, Repr

/-- What a shell does. -/
abbrev Act := ExceptT Leave (StateM Session)

/-- What actions need of each other. -/
structure Kit where
  launch : Launcher
  /-- Runs a command and leaves its status. -/
  evaluate : Command → Act Unit
  /-- Runs a script that begins at a line. -/
  interpret : Octets → Nat → Act Unit
  /-- The most turns of a loop, and the most commands inside each other. -/
  limit : Nat

namespace Act

/-- The state of the shell. -/
def state : Act State := do return (← get).shell

/-- Changes the state of the shell. -/
def update (f : State → State) : Act Unit := modify fun s => { s with shell := f s.shell }

/-- Leaves a status. -/
def status (n : Nat) : Act Unit := update fun s => { s with status := n }

/-- Does what a program does. -/
def perform {α : Type} (task : Task α) : Act α := do
  let s ← get
  let (result, host) := (task.run s.shell.context).run s.host
  set { s with host := host }
  return result

/-- Writes a message. -/
def say (message : Octets) : Act Unit := do
  let s ← state
  let name := match s.command with
    | some name => name ++ [':', ' ']
    | none => []
  perform (Task.writeTo 2
    (s.name ++ ": ".toList ++ Octets.ofNat s.line ++ ": ".toList ++ name ++ message ++ ['\n']))

/-- Gives up because of a mistake. -/
def fail {α : Type} (message : Octets) : Act α := do
  say message
  status 2
  throw .failing

/-- Whether an option is on. -/
def hasOption (letter : Char) : Act Bool := do return (← state).options.contains letter

end Act

/-- What is told of a file that cannot be opened: the cause, or a note of what is not there. -/
def openNote (cause : IoError) (note : String) : Octets :=
  if cause = .noSuchEntry || cause = .notDirectory then note.toList
  else Octets.ofText cause.plainMessage

namespace State

/-- The value of a variable. -/
def setting? (s : State) (name : Octets) : Option Octets :=
  (s.bindings.lookup name).bind Variable.value

/-- The value of a variable, or nothing. -/
def valueOf (s : State) (name : String) : Octets := (s.setting? name.toList).getD []

/-- The characters that separate fields. -/
def separators (s : State) : Octets := (s.setting? "IFS".toList).getD " \t\n".toList

/-- The state with another variable. -/
def putVariable (s : State) (name : Octets) (v : Variable) : State :=
  if (s.bindings.lookup name).isSome then
    { s with bindings := s.bindings.map fun (n, old) => if n = name then (n, v) else (n, old) }
  else { s with bindings := s.bindings ++ [(name, v)] }

/-- The state without a variable. -/
def dropVariable (s : State) (name : Octets) : State :=
  { s with bindings := s.bindings.filter (·.1 ≠ name) }

/-- The environment of programs that are started from here. -/
def environment (s : State) : List (Octets × Octets) :=
  s.bindings.filterMap fun (name, v) =>
    if v.exported then v.value.map fun value => (name, value) else none

/-- What programs see that are started from here. -/
def childContext (s : State) : Context := { s.context with environment := s.environment }

/-- The arguments joined by the first separator. -/
def joinedArguments (s : State) : Octets :=
  match s.separators with
  | [] => s.arguments.flatten
  | c :: _ => [c].intercalate s.arguments

/-- The letters of the options that are on, in their usual order. -/
def optionLetters (s : State) : Octets := "efIimnsxvVECabu".toList.filter s.options.contains

/-- The value of a parameter that is not the list of all arguments. -/
def parameter? (s : State) (name : Octets) : Option Octets :=
  match name with
  | ['?'] => some (Octets.ofNat s.status)
  | ['#'] => some (Octets.ofNat s.arguments.length)
  | ['$'] => some (Octets.ofNat s.number)
  | ['!'] => s.lastJob.map Octets.ofNat
  | ['-'] => some s.optionLetters
  | ['0'] => some s.name
  | c :: _ =>
    if c.isDigit then
      match Number.natOfDecimals name with
      | 0 => some s.name
      | n + 1 => s.arguments[n]?
    else s.setting? name
  | [] => none

end State

namespace Act

/-- Sets a variable. -/
def assign (name value : Octets) : Act Unit := do
  let s ← state
  let old := s.bindings.lookup name
  if old.any Variable.readOnly then fail (name ++ ": is read only".toList)
  else
    let exported := old.any Variable.exported || s.options.contains 'a'
    update fun s =>
      let s := if name = "OPTIND".toList then { s with optionOffset := 0 } else s
      s.putVariable name ⟨some value, exported, false⟩

/-- Sets the status after a task, to the one that it gives. -/
def settle (task : Task Nat) : Act Unit := do status (← perform task)

/-- Runs something and puts the descriptors of the shell back. -/
def keepingDescriptors (act : Act Unit) : Act Unit := do
  let before := (← state).context.descriptors
  let restore : Act Unit := update fun s =>
    { s with context := { s.context with descriptors := before } }
  try act catch leave => restore; throw leave
  restore

/-- Runs a script that was set for a signal, which does not change the status. -/
def runTrap (kit : Kit) (script : Octets) : Act Unit := do
  let before := (← state).status
  kit.interpret script 1
  status before

/-- What comes of a signal: its script, nothing, or the end. -/
def receive (kit : Kit) (signal : Nat) : Act Unit := do
  match (← state).traps.lookup signal with
  | some script => if script.isEmpty then pure () else runTrap kit script
  | none => if Signal.isDeadly signal then throw (.killed signal) else pure ()

/-- Takes the signals that have been sent to the shell. -/
def receiveAll (kit : Kit) : Act Unit := do
  let s ← get
  if s.host.signals.isEmpty then return
  let own := s.shell.context.program
  let (mine, others) := s.host.signals.partition (·.1 = own)
  set { s with host := { s.host with signals := others } }
  mine.forM fun (_, signal) => receive kit signal

end Act

end CallbackWeave.Shell

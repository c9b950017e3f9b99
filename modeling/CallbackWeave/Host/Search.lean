import CallbackWeave.Host.Stream

/-!
Looking for programs. A name with a separator is the path of a file, and any other is looked for in
the directories that a variable lists.
-/

namespace CallbackWeave

namespace Context

/-- The value of a variable of the environment. -/
def setting? (c : Context) (name : String) : Option Octets := c.environment.lookup name.toList

/-- The directories in which programs are looked for when no variable lists any. -/
def usualDirectories : Octets := "/bin:/usr/bin".toList

/-- The paths that a name may stand for. -/
def candidates (directories name : Octets) : List Octets :=
  (directories.splitOn ':').map fun directory =>
    if directory.isEmpty then name else directory ++ '/' :: name

end Context

/-- Whether a search goes on after a file could not be run. -/
def IoError.isPassedOver (cause : IoError) : Bool :=
  cause = .noSuchEntry || cause = .notDirectory || cause = .permissionDenied

/-- The cause for which a file that is no program is not run. -/
def IoError.notProgram : IoError := .system 8

namespace Launcher

/-- Runs the first of some files that can be run. A file that may not be run is what is told of if
there is none. -/
def firstOf (launch : Launcher) (c : Context) (words : List Octets) (h : Host) :
    IoError → List Octets → Except IoError (Ending × Host)
  | cause, [] => .error cause
  | cause, path :: rest =>
    match launch c path words h with
    | .ok ended => .ok ended
    | .error found =>
      if found.isPassedOver then
        firstOf launch c words h (if found = .permissionDenied then found else cause) rest
      else .error found

/-- Runs the program that the first of some words names. -/
def named (launch : Launcher) (c : Context) (directories : Octets) (words : List Octets) (h : Host) :
    Except IoError (Ending × Host) :=
  match words with
  | [] => .error .noSuchEntry
  | name :: _ =>
    if name.isEmpty then .error .noSuchEntry
    else if name.contains '/' then launch c name words h
    else firstOf launch c words h .noSuchEntry (Context.candidates directories name)

/-- The same, where a file that is no program is given to a shell as a script. -/
def orScript (launch : Launcher) : Launcher := fun c path words h =>
  match launch c path words h with
  | .error cause =>
    if cause = .notProgram then
      launch c "/bin/sh".toList ("/bin/sh".toList :: path :: words.drop 1) h
    else .error cause
  | ended => ended

end Launcher

namespace Task

/-- Runs a program as a child and waits for its end. -/
def spawn (launch : Launcher) (words : List Octets) : Task (Except IoError Ending) := do
  let c ← read
  let h ← get
  let number := h.lastProgram + 1
  let child := { c with program := number, parent := c.program }
  let directories := (c.setting? "PATH").getD Context.usualDirectories
  match launch.orScript.named child directories words { h with lastProgram := number } with
  | .ok (ending, h) => set h; return .ok ending
  | .error cause => return .error cause

/-- Adds a stream and gives its index. -/
def addStream (stream : Stream) : Task Nat := do
  let (index, h) := (← get).addStream stream
  set h
  return index

/-- Does something while a number of the program stands for a stream. -/
def withStream (number index : Nat) (act : Task α) : Task α := fun c =>
  act { c with descriptors := (number, index) :: c.descriptors.filter (·.1 ≠ number) }

/-- Runs a command in a shell. The status is that of a command that is not found if there is no shell. -/
def runCommand (launch : Launcher) (command : Octets) : Task Ending := do
  match ← spawn launch ["/bin/sh".toList, "-c".toList, command] with
  | .ok ending => return ending
  | .error _ => return .exited 127

/-- The output of a command that is run in a shell, and how it ended. -/
def outputOf (launch : Launcher) (command : Octets) : Task (Octets × Ending) := do
  let index ← addStream (.pipe [] [])
  let ending ← withStream 1 index (runCommand launch command)
  let (output, h) := (← get).readAll index
  set h
  return (output.toOption.getD [], ending)

end Task

end CallbackWeave

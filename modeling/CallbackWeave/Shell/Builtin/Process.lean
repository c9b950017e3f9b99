import CallbackWeave.Shell.Builtin.Variable
import CallbackWeave.Utility.Condition
import CallbackWeave.Utility.Words

/-!
The commands of a shell that deal with directories, signals and other programs, and those that write.
-/

namespace CallbackWeave.Shell.Builtin

open Act

/-! ## Output -/

/-- Writes the arguments between blanks, with their escapes replaced. -/
def echoing : Builtin := fun arguments => do
  let (silent, escapes, words) :=
    if (← state).plain then Utility.Echo.readOptions false false arguments
    else match arguments with
      | ['-', 'n'] :: rest => (true, true, rest)
      | words => (false, true, words)
  let text := [' '].intercalate words
  let (text, ends) :=
    if escapes then Utility.Printf.unescaped .shell text.length text else (text, false)
  perform (Task.print (text ++ if silent || ends then [] else ['\n']))
  status 0

/-- Writes a format. -/
def formatting : Builtin := fun arguments => do
  let arguments := if arguments.head? = some ['-', '-'] then arguments.drop 1 else arguments
  match arguments with
  | [] => fail "usage: printf format [arg ...]".toList
  | format :: values =>
    match format with
    | '-' :: letter :: _ => fail ("Illegal option -".toList ++ [letter])
    | _ => pure ()
    let done := Utility.Printf.run .shell format values
    done.complaints.forM fun text => say (Octets.ofText text)
    perform (Task.print done.output)
    status done.status

/-- Tests a condition. -/
def testing : Builtin := fun arguments => do
  let s ← get
  match Utility.Condition.holds (s.shell.context.files s.host) arguments with
  | .ok holds => status (if holds then 0 else 1)
  | .error text => fail (Octets.ofText text)

/-- Tests a condition in brackets. -/
def bracket : Builtin := fun arguments => do
  if arguments.getLast? = some [']'] then testing arguments.dropLast
  else fail "missing ]".toList

/-! ## Directories -/

/-- A path from the root with its points taken away by its text alone. -/
def foldedPath (text : Octets) : Octets :=
  let add (above : List Octets) (part : Octets) : List Octets :=
    if part.isEmpty || part = ['.'] then above
    else if part = ['.', '.'] then above.drop 1
    else part :: above
  '/' :: ['/'].intercalate ((text.splitOn '/').foldl add []).reverse

/-- The path of a location. -/
def locationText (place : Location) : Octets := '/' :: ['/'].intercalate (place.map Octets.ofText)

/-- Goes to a directory. -/
def enter (physical : Bool) (target : Octets) : Act Unit := do
  let s ← get
  let from_ := s.shell.directory
  let logical := foldedPath (if target.head? = some '/' then target else from_ ++ '/' :: target)
  let path := if physical then target else logical
  match (s.shell.context.files s.host).locate .target path.toPath with
  | .ok ⟨place, some .directory⟩ =>
    let directory := if physical then locationText place else logical
    update fun s =>
      { s with
        context := { s.context with site := { s.context.site with workingDirectory := place } }
        directory := directory }
    exporting ["OLDPWD=".toList ++ from_, "PWD=".toList ++ directory]
  | _ => fail ("can't cd to ".toList ++ target)

/-- Goes to another directory. -/
def changing : Builtin := fun arguments => do
  let physical := (arguments.takeWhile fun a => a = ['-', 'P'] || a = ['-', 'L']).getLast? = some ['-', 'P']
  let arguments := arguments.dropWhile fun a => a = ['-', 'P'] || a = ['-', 'L'] || a = ['-', '-']
  let s ← state
  match arguments with
  | [] =>
    let home := s.valueOf "HOME"
    if home.isEmpty then status 0 else enter physical home
  | ['-'] :: _ =>
    enter physical (s.valueOf "OLDPWD")
    printLines [(← state).directory]
  | [] :: _ => status 0
  | target :: _ =>
    if target.head? = some '/' || target.head? = some '.' || (s.valueOf "CDPATH").isEmpty then
      enter physical target
    else
      let s ← get
      let fs := s.shell.context.files s.host
      let paths := Context.candidates (s.shell.valueOf "CDPATH") target
      match paths.find? fun path => fs.isDirectory path.toPath with
      | some path =>
        enter physical path
        if path ≠ target then printLines [(← state).directory]
      | none => enter physical target

/-- Writes the path of the directory. -/
def locating : Builtin := fun arguments => do
  let s ← state
  printLines [if arguments.head? = some ['-', 'P'] then locationText s.context.site.workingDirectory
    else s.directory]
  status 0

/-! ## Signals -/

/-- The signal that an argument gives by number or name. -/
def signal? (argument : Octets) : Option Nat :=
  match Number.natOfDigits? 10 argument with
  | some n => if n ≤ 64 then some n else none
  | none => Signal.ofName? (String.ofList argument)

/-- The name of a signal. -/
def signalName (signal : Nat) : Octets :=
  if signal = 0 then "EXIT".toList else (Signal.names.getD (signal - 1) "").toList

/-- Sets scripts for signals. -/
def trapping : Builtin := fun arguments => do
  let arguments := if arguments.head? = some ['-', '-'] then arguments.drop 1 else arguments
  let setAll (script : Option Octets) (signals : List Octets) : Act Unit := do
    status 0
    for argument in signals do
      match signal? argument with
      | none =>
        perform (Task.writeTo 2 ("trap: ".toList ++ argument ++ ": bad trap\n".toList))
        status 1
      | some signal =>
        update fun s =>
          let others := s.traps.filter (·.1 ≠ signal)
          { s with traps := match script with
              | some script => (signal, script) :: others
              | none => others }
  match arguments with
  | [] =>
    let traps := (← state).traps.mergeSort fun a b => a.1 ≤ b.1
    printLines (traps.map fun (signal, script) =>
      "trap -- ".toList ++ singleQuoted script ++ ' ' :: signalName signal)
    status 0
  | [only] => setAll none [only]
  | action :: signals =>
    if action = ['-'] then setAll none signals
    else if (Number.natOfDigits? 10 action).isSome then setAll none (action :: signals)
    else setAll (some action) signals

/-- Sends a signal to a program, and says whether there is such a program. -/
def send (signal program : Nat) : Act Bool := do
  let s ← get
  match s.jobs.find? (·.number = program) with
  | some job =>
    if job.work.isSome && Signal.isDeadly signal then
      set { s with jobs := s.jobs.map fun (j : Job) =>
        if j.number = program then { j with work := none, status := 128 + signal } else j }
    return job.work.isSome
  | none =>
    let known := [s.shell.number, s.shell.context.program, s.shell.context.parent]
    if known.contains program then
      if signal ≠ 0 then
        set { s with host := { s.host with signals := s.host.signals ++ [(program, signal)] } }
      return true
    else return program ≤ 1

def usageOfKill : Octets :=
  ("Usage: kill [-s sigspec | -signum | -sigspec] [pid | job]... or\nkill -l [exitstatus]").toList

/-- Sends a signal to programs. -/
def killing : Builtin := fun arguments => do
  let sendAll (signal : Nat) (targets : List Octets) : Act Unit := do
    let targets := if targets.head? = some ['-', '-'] then targets.drop 1 else targets
    if targets.isEmpty then fail usageOfKill
    status 0
    for target in targets do
      let number ← match target with
        | '%' :: _ => pure ((← state).lastJob.getD 0)
        | target => naturalArgument target
      if !(← send signal number) then
        say "No such process\n".toList
        status 1
  let named (name : Octets) (targets : List Octets) : Act Unit := do
    match signal? name with
    | some signal => sendAll signal targets
    | none => fail ("invalid signal number or name: ".toList ++ name)
  match arguments with
  | [['-', 'l']] =>
    printLines (['0'] :: Signal.names.map String.toList)
    status 0
  | ['-', 'l'] :: number :: _ =>
    let n ← naturalArgument number
    printLines [signalName (if n > 128 then n - 128 else n)]
    status 0
  | ['-', 's'] :: name :: targets => named name targets
  | ('-' :: c :: name) :: targets =>
    if c = '-' && name.isEmpty then sendAll Signal.terminate targets
    else named (c :: name) targets
  | targets => sendAll Signal.terminate targets

/-! ## Programs -/

/-- The commands after whose mistakes a script does not go on. -/
def specialNames : List String :=
  [".", ":", "break", "continue", "eval", "exec", "exit", "export", "readonly", "return", "set",
    "shift", "times", "trap", "unset", "local"]

/-- The other commands that are built in. -/
def usualNames : List String :=
  ["[", "alias", "bg", "cd", "chdir", "command", "echo", "false", "fg", "getopts", "hash", "jobs",
    "kill", "printf", "pwd", "read", "test", "true", "type", "ulimit", "umask", "unalias", "wait"]

/-- The words that have a meaning of their own. -/
def keywords : List String :=
  ["!", "\x7b", "\x7d", "case", "do", "done", "elif", "else", "esac", "fi", "for", "if", "in", "then",
    "until", "while"]

/-- The directories in which a shell looks for programs. -/
def searchPath (s : State) : Octets :=
  (s.setting? "PATH".toList).getD
    "/usr/local/sbin:/usr/local/bin:/usr/sbin:/usr/bin:/sbin:/bin".toList

/-- The path of the program that a name stands for. -/
def programPath? (name : Octets) : Act (Option Octets) := do
  let s ← get
  let fs := s.shell.context.files s.host
  let runs (path : Octets) : Bool := Utility.Condition.fileIs fs "-x" path && fs.isFile path.toPath
  if name.contains '/' then return if runs name then some name else none
  else return (Context.candidates (searchPath s.shell) name).find? runs

/-- Says what a name stands for, at length or in short. -/
def describe (short : Bool) (name : Octets) : Act Unit := do
  let text := String.ofList name
  let tell (note : String) : Act Unit := do
    printLines [if short then name else name ++ note.toList]
    status 0
  if keywords.contains text then tell " is a shell keyword"
  else if let some value := (← state).aliases.lookup name then
    printLines [if short then "alias ".toList ++ name ++ '=' :: singleQuoted value
      else name ++ " is an alias for ".toList ++ value]
    status 0
  else if ((← state).functions.lookup name).isSome then tell " is a shell function"
  else if specialNames.contains text then tell " is a special shell builtin"
  else if usualNames.contains text then tell " is a shell builtin"
  else
    match ← programPath? name with
    | some path =>
      printLines [if short then path else name ++ " is ".toList ++ path]
      status 0
    | none =>
      if !short then printLines [name ++ ": not found".toList]
      status 127

/-- Says what names stand for. -/
def describing : Builtin := fun names => do
  let mut worst := 0
  for name in names do
    describe false name
    worst := max worst (← state).status
  status worst

/-- Waits for commands in the background. -/
def waiting (kit : Kit) : Builtin := fun arguments => do
  if arguments.isEmpty then
    runJobs kit
    status 0
  else
    for argument in arguments do
      let number ← match argument with
        | '%' :: _ => pure ((← state).lastJob.getD 0)
        | argument => naturalArgument argument
      let jobs := (← get).jobs
      if jobs.any (·.number = number) then
        let first := jobs.takeWhile (·.number ≠ number)
        let rest := jobs.drop first.length
        modify fun s => { s with jobs := [] }
        let done ← (first ++ rest.take 1).mapM (runJob kit kit.limit)
        modify fun s => { s with jobs := done ++ rest.drop 1 ++ s.jobs }
        status ((done.getLast?.map Job.status).getD 0)
      else status 127

/-- Tells a limit. -/
def limiting : Builtin := fun arguments => do
  if arguments.length ≤ 1 then printLines ["unlimited".toList]
  status 0

/-- What may be done with three bits. -/
def permissions (bits : Nat) : Octets :=
  [(4, 'r'), (2, 'w'), (1, 'x')].filterMap fun (bit, letter) =>
    if bits / bit % 2 = 1 then some letter else none

/-- Tells or changes what new files may not be used for. -/
def masking : Builtin := fun arguments => do
  let mask := (← state).mask
  status 0
  match arguments with
  | [] => printLines [Octets.padLeft 4 '0' (Nat.toDigits 8 mask)]
  | ['-', 'S'] :: _ =>
    let allowed (place : Nat) : Octets := permissions (7 - mask / place % 8)
    printLines ["u=".toList ++ allowed 64 ++ ",g=".toList ++ allowed 8 ++ ",o=".toList ++ allowed 1]
  | text :: _ =>
    match Number.natOfDigits? 8 text with
    | some n => update fun s => { s with mask := n % 512 }
    | none =>
      if text.head?.any Char.isDigit then fail ("Illegal number: ".toList ++ text)

/-- The drawer in which a name for other text is kept. It decides the order in which all of them are
told. -/
def drawerOf (name : Octets) : Nat :=
  ((name.headD '\x00').toNat * 16 + name.foldl (fun total c => total + c.toNat) 0) % 39

/-- Gives names to other text, or tells about them. -/
def aliasing : Builtin := fun arguments => do
  let shown (a : Octets × Octets) : Octets := a.1 ++ '=' :: singleQuoted a.2
  status 0
  if arguments.isEmpty then
    let all := (← state).aliases
    printLines ((all.mergeSort fun a b => drawerOf a.1 ≤ drawerOf b.1).map shown)
  for argument in arguments do
    match Octets.splitAt '=' argument with
    | ([], _) | (_, none) =>
      match (← state).aliases.lookup argument with
      | some value => printLines [shown (argument, value)]
      | none =>
        perform (Task.writeTo 2 ("alias: ".toList ++ argument ++ " not found\n".toList))
        status 1
    | (name, some value) =>
      update fun s =>
        if (s.aliases.lookup name).isSome then
          { s with aliases := s.aliases.map fun a => if a.1 = name then (name, value) else a }
        else { s with aliases := s.aliases ++ [(name, value)] }

/-- Takes names from other text. -/
def unaliasing : Builtin := fun arguments => do
  status 0
  if arguments.head? = some ['-', 'a'] then update fun s => { s with aliases := [] }
  else
    for name in arguments do
      if ((← state).aliases.lookup name).isSome then
        update fun s => { s with aliases := s.aliases.filter (·.1 ≠ name) }
      else
        perform (Task.writeTo 2 ("unalias: ".toList ++ name ++ " not found\n".toList))
        status 1

/-- Tells how long the shell has run. -/
def timing : Builtin := fun _ => do
  let line := "0m0.000000s 0m0.000000s".toList
  printLines [line, line]
  status 0

/-- A command that only leaves a status. -/
def leaving (n : Nat) : Builtin := fun _ => status n

/-- The built-in commands by their names. -/
def table (kit : Kit) : List (String × Builtin) :=
  [(":", leaving 0), ("true", leaving 0), ("hash", leaving 0), ("jobs", leaving 0), ("bg", leaving 0),
    ("fg", leaving 0), ("unalias", unaliasing), ("false", leaving 1), ("break", leaveLoops .breaking),
    ("continue", leaveLoops .continuing), ("exit", exiting), ("return", returning),
    ("shift", shifting), ("set", setting), ("export", exporting), ("readonly", protecting),
    ("unset", unsetting), ("local", localizing), ("read", reading), ("getopts", choosing),
    ("echo", echoing), ("printf", formatting), ("test", testing), ("[", bracket), ("cd", changing),
    ("chdir", changing), ("pwd", locating), ("trap", trapping), ("kill", killing),
    ("type", describing), ("wait", waiting kit), ("ulimit", limiting), ("umask", masking),
    ("alias", aliasing), ("times", timing)]

end CallbackWeave.Shell.Builtin

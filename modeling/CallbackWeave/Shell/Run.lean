import CallbackWeave.Shell.Builtin.Process
import CallbackWeave.Shell.Script

/-!
Running of commands. `evaluate` runs a command and leaves its status, and `program` is the shell as a
program. Commands that stand in others are run by the same function with less fuel.
-/

namespace CallbackWeave.Shell

open Act

/-! ## Redirections -/

/-- Opens a file and lets a number stand for it. -/
def redirectFile (number : Nat) (mode : OpenMode) (note front : String) (name : Octets) : Act Unit := do
  match ← perform (Task.openFile mode name) with
  | .ok stream => update fun s => s.connect number stream
  | .error cause => fail (front.toList ++ name ++ ": ".toList ++ openNote cause note)

/-- Lets a number stand for the stream of another number, or for nothing. -/
def redirectNumber (number : Nat) (name : Octets) : Act Unit := do
  if name = ['-'] then update fun s => s.disconnect number
  else
    match Number.natOfDigits? 10 name with
    | none => fail "Syntax error: Bad fd number".toList
    | some other =>
      match (← state).context.descriptors.lookup other with
      | some stream => update fun s => s.connect number stream
      | none => fail (name ++ ": Bad file descriptor".toList)

/-- Carries out a redirection. -/
def redirect (kit : Kit) : Redirection → Act Unit
  | .mk number kind target => do
    match kind with
    | .document =>
      let text := Glyph.text (Piece.glyphs (← target.mapM (expandPart kit false wordDepth false)).flatten)
      let stream ← addStream (.pipe text [])
      update fun s => s.connect number stream
    | .duplicate => redirectNumber number (← expandText kit false target)
    | .read =>
      redirectFile number .read "No such file" "cannot open " (← expandText kit false target)
    | kind =>
      let name ← expandText kit false target
      let s ← get
      let keeps := kind = .write && s.shell.options.contains 'C'
      if keeps && (s.shell.context.files s.host).isFile name.toPath then
        fail ("cannot create ".toList ++ name ++ ": File exists".toList)
      let mode : OpenMode := match kind with
        | .append => .append
        | .both => .both
        | _ => .write
      redirectFile number mode "Directory nonexistent" "cannot create " name

/-- Carries out redirections, and says whether that succeeded. -/
def redirectAll (kit : Kit) (redirections : List Redirection) : Act Bool := do
  try
    redirections.forM (redirect kit)
    return true
  catch leave => if leave = .failing then return false else throw leave

/-! ## Programs -/

/-- What is told of a program that a signal ended. -/
def endNote (signal : Nat) : Option String :=
  match signal with
  | 1 => some "Hangup"
  | 3 => some "Quit"
  | 4 => some "Illegal instruction"
  | 5 => some "Trace/breakpoint trap"
  | 6 => some "Aborted"
  | 7 => some "Bus error"
  | 8 => some "Floating point exception"
  | 9 => some "Killed"
  | 10 => some "User defined signal 1"
  | 11 => some "Segmentation fault"
  | 12 => some "User defined signal 2"
  | 14 => some "Alarm clock"
  | 15 => some "Terminated"
  | _ => none

/-- Starts a program by the first of some words. -/
def start (kit : Kit) (context : Context) (words : List Octets) : Act (Except IoError Ending) := do
  let s ← get
  match kit.launch.orScript.named context (Builtin.searchPath s.shell) words s.host with
  | .ok (ending, host) =>
    set { s with host := host }
    return .ok ending
  | .error cause => return .error cause

/-- Tells why a program could not be started. -/
def tellOfStart (name : Octets) (cause : IoError) : Act Unit := do
  let cause := if name.isEmpty then .permissionDenied else cause
  say (name ++ ": ".toList ++ openNote cause "not found")
  let unfound := name.isEmpty || cause = .noSuchEntry || cause = .notDirectory
    || cause = .tooManyLinks || cause = .nameTooLong
  status (if unfound then 127 else 126)

/-- Runs a program and waits for it. -/
def runProgram (kit : Kit) (words : List Octets) : Act Unit := do
  let s ← get
  let replaces := s.shell.isLast && s.shell.traps.isEmpty && s.jobs.isEmpty
  let number := s.host.lastProgram + 1
  let context := s.shell.childContext
  let child := if replaces then context
    else { context with program := number, parent := context.program }
  if !replaces then set { s with host := { s.host with lastProgram := number } }
  match ← start kit child words with
  | .ok (.exited n) => status n
  | .ok (.killed signal) =>
    if replaces then throw (.killed signal)
    match endNote signal with
    | some note => perform (Task.writeTo 2 (note.toList ++ ['\n']))
    | none => pure ()
    status (128 + signal)
  | .error cause => tellOfStart (words.headD []) cause

/-- Lets a program take the place of the shell. -/
def replaceBy (kit : Kit) (words : List Octets) : Act Unit := do
  match ← start kit (← state).childContext words with
  | .ok (.exited n) => status n
  | .ok (.killed signal) => throw (.killed signal)
  | .error cause => tellOfStart (words.headD []) cause
  update fun s => { s with traps := [] }
  throw .exiting

/-! ## Built-in commands that run others -/

/-- Runs something from which returning is possible. -/
def returnable (act : Act Unit) : Act Unit := do
  update fun s => { s with calls := s.calls + 1 }
  let leave ← leaving act
  update fun s => { s with calls := s.calls - 1 }
  match leave with
  | none | some .returning => pure ()
  | some leave => throw leave

/-- Runs a script of a file in this shell. -/
def runFile (kit : Kit) (name : Octets) : Act Unit := do
  let s ← get
  let fs := s.shell.context.files s.host
  let found? := if name.contains '/' then some name
    else (Context.candidates (Builtin.searchPath s.shell) name).find? fun path => fs.isFile path.toPath
  match found? with
  | none => fail (name ++ ": not found".toList)
  | some path =>
    match ← perform (Task.content path) with
    | .ok text =>
      update fun s => { s with command := none }
      status 0
      returnable (kit.interpret text 1)
    | .error cause =>
      fail ("cannot open ".toList ++ path ++ ": ".toList ++ openNote cause "No such file")

/-- The built-in commands that run others, except the one that only chooses how others are run. -/
def runner? (kit : Kit) (name : String) (arguments : List Octets) : Option (Act Unit) :=
  match name with
  | "eval" => some do
    status 0
    kit.interpret ([' '].intercalate arguments) 1
  | "." => some do
    match if arguments.head? = some ['-', '-'] then arguments.drop 1 else arguments with
    | [] => status 0
    | file :: _ => runFile kit file
  | "exec" => some do
    match if arguments.head? = some ['-', '-'] then arguments.drop 1 else arguments with
    | [] => status 0
    | words => replaceBy kit words
  | _ => none

/-! ## Simple commands -/

/-- Runs something under the name of a built-in command. -/
def under (name : Octets) (act : Act Unit) : Act Unit := do
  let before := (← state).command
  update fun s => { s with command := some name }
  let leave ← leaving act
  let fault := (← get).host.writeFault
  if fault.isSome then
    modify fun s => { s with host := { s.host with writeFault := none } }
    say (name ++ ": I/O error".toList)
    status 1
  update fun s => { s with command := before }
  leave.forM throw

/-- Puts variables back as they were, the last one that was kept first. -/
def restore (saved : List (Octets × Option Variable)) : Act Unit :=
  update fun s => saved.foldl (fun s (name, old) =>
    match old with
    | some v => s.putVariable name v
    | none => s.dropVariable name) s

/-- Runs something with bindings that are set for it alone. -/
def withAssignments (assignments : List (Octets × Octets)) (act : Act Unit) : Act Unit := do
  if assignments.isEmpty then act
  else
    let before := (← state).bindings
    let saved := assignments.map fun (name, _) => (name, before.lookup name)
    for (name, value) in assignments do
      assign name value
      update fun s => s.putVariable name ⟨some value, true, false⟩
    let leave ← leaving act
    restore saved.reverse
    leave.forM throw

/-- Calls a function. -/
def call (kit : Kit) (body : Command) (arguments : List Octets)
    (assignments : List (Octets × Octets)) : Act Unit := do
  let before ← state
  update fun s => { s with
    arguments := arguments, loops := 0, saved := [], inFunction := true, optionOffset := 0
    isLast := false }
  for (name, value) in assignments do
    Builtin.keep name
    assign name value
    update fun s => s.putVariable name ⟨some value, true, false⟩
  let leave ← leaving (returnable (kit.evaluate body))
  restore (← state).saved
  update fun s => { s with
    arguments := before.arguments, loops := before.loops, saved := before.saved
    inFunction := before.inFunction, isLast := before.isLast
    optionOffset := before.optionOffset }
  leave.forM throw

/-- Runs a command that is built in, after whose mistakes the script goes on unless it is special. -/
def runBuiltin (name : Octets) (isSpecial : Bool) (act : Act Unit) : Act Unit := do
  match ← leaving (under name act) with
  | none => pure ()
  | some .failing => if isSpecial then throw .failing else pure ()
  | some leave => throw leave

/-- The words behind the command that chooses how others are run, and whether it only describes them:
at length or in short. -/
def chosen (describes : Option Bool) : List Octets → Option Bool × List Octets
  | ['-', 'v'] :: rest => chosen (some true) rest
  | ['-', 'V'] :: rest => chosen (some false) rest
  | ['-', 'p'] :: rest => chosen describes rest
  | ['-', '-'] :: rest => (describes, rest)
  | rest => (describes, rest)

/-- Runs the command that words name. Functions and the rights of special commands can be put
aside. `fuel` bounds how often that is done. -/
def dispatch (kit : Kit) (plain : Bool) (assignments : List (Octets × Octets)) :
    Nat → List Octets → Act Unit
  | 0, _ | _, [] => status 0
  | fuel + 1, word :: arguments => do
    let text := String.ofList word
    let builtin? := match runner? kit text arguments with
      | some act => some act
      | none => ((Builtin.table kit).lookup text).map fun b => b arguments
    if text = "command" then
      match chosen none arguments with
      | (_, []) => status 0
      | (some short, name :: _) => runBuiltin word false (Builtin.describe short name)
      | (none, words) => dispatch kit true assignments fuel words
    else
      let isSpecial := Builtin.specialNames.contains text
      match builtin?, (← state).functions.lookup word with
      | some act, function? =>
        if isSpecial then
          if plain then withAssignments assignments (runBuiltin word false act)
          else
            for (name, value) in assignments do assign name value
            runBuiltin word true act
        else
          match if plain then none else function? with
          | some body => call kit body arguments assignments
          | none => withAssignments assignments (runBuiltin word false act)
      | none, some body =>
        if plain then withAssignments assignments (runProgram kit (word :: arguments))
        else call kit body arguments assignments
      | none, none => withAssignments assignments (runProgram kit (word :: arguments))

/-- Whether the arguments of a command may be assignments. -/
def takesAssignments (words : List Octets) : Bool :=
  ["export", "readonly", "local"].contains
    (String.ofList ((words.dropWhile (· = "command".toList)).headD []))

/-- Expands the words of a command. -/
def expandWords (kit : Kit) : List Octets → List Word → Act (List Octets)
  | done, [] => pure done
  | done, word :: rest => do
    if takesAssignments done && (assignment? word).isSome then
      let text ← match assignment? word with
        | some (name, value) => pure (name ++ '=' :: (← expandText kit true value))
        | none => pure []
      expandWords kit (done ++ [text]) rest
    else expandWords kit (done ++ (← expandFields kit word)) rest

/-- Writes a command before it is run, if that is asked for. -/
def trace (assignments : List (Octets × Octets)) (words : List Octets) : Act Unit := do
  if ← hasOption 'x' then
    let texts := assignments.map (fun (name, value) => name ++ '=' :: value) ++ words
    let front := (← state).valueOf "PS4"
    perform (Task.writeTo 2 (front ++ [' '].intercalate texts ++ ['\n']))

/-- Runs a simple command. -/
def runSimple (kit : Kit) (assignments : List (Octets × Word)) (words : List Word)
    (redirections : List Redirection) : Act Unit := do
  update fun s => { s with outputStatus := none }
  let words ← expandWords kit [] words
  let persists := words.head? = some "exec".toList
  let isSpecial := Builtin.specialNames.contains (String.ofList (words.headD []))
  let before := (← state).context.descriptors
  let restoreDescriptors : Act Unit := update fun s =>
    { s with context := { s.context with descriptors := before } }
  if !(← redirectAll kit redirections) then
    restoreDescriptors
    status 2
    if isSpecial then throw .failing
  else
    let act : Act Unit := do
      let values ← assignments.mapM fun (name, value) => do
        return (name, (← expandText kit true value))
      trace values words
      if words.isEmpty then
        for (name, value) in values do assign name value
        status ((← state).outputStatus.getD 0)
      else dispatch kit false values (words.length + 1) words
    let leave ← leaving act
    if !persists then restoreDescriptors
    leave.forM throw

/-! ## Compound commands -/

/-- Runs something whose status is asked for. -/
def asking (act : Act Unit) : Act Unit := do
  let before ← state
  update fun s => { s with asked := true, isLast := false }
  let leave ← leaving act
  update fun s => { s with asked := before.asked, isLast := before.isLast }
  leave.forM throw

/-- Runs something that is not the last thing that the shell does. -/
def onTheWay (act : Act Unit) : Act Unit := do
  let before := (← state).isLast
  update fun s => { s with isLast := false }
  let leave ← leaving act
  update fun s => { s with isLast := before }
  leave.forM throw

/-- Ends the shell after a command that failed, if that is asked for. -/
def checkStatus : Act Unit := do
  let s ← state
  if s.options.contains 'e' && !s.asked && s.status ≠ 0 then throw .exiting

/-- Runs commands after each other. -/
def runSequence (kit : Kit) : List Command → Act Unit
  | [] => status 0
  | [last] => kit.evaluate last
  | first :: rest => do
    onTheWay (kit.evaluate first)
    runSequence kit rest

/-- Gives the output of each command to the next. -/
def runPipe (kit : Kit) : Option Nat → List Command → Act Unit
  | _, [] => status 0
  | input, command :: rest => do
    let connectInput (s : State) : State := match input with
      | some stream => s.connect 0 stream
      | none => s
    let isLast := rest.isEmpty
    let output ← addStream (.pipe [] [])
    let change (s : State) : State :=
      let s := { connectInput s with isLast := true }
      if isLast then s else s.connect 1 output
    let ending ← inside kit change (kit.evaluate command)
    if isLast then status ending.status else runPipe kit (some output) rest

/-- What comes of a turn of a loop: whether the loop goes on. -/
def turn (act : Act Unit) : Act Bool := do
  match ← leaving act with
  | none => return true
  | some (.breaking n) => if n ≤ 1 then return false else throw (.breaking (n - 1))
  | some (.continuing n) => if n ≤ 1 then return true else throw (.continuing (n - 1))
  | some leave => throw leave

/-- Runs something as a loop. -/
def looping (act : Act Unit) : Act Unit := do
  update fun s => { s with loops := s.loops + 1 }
  let leave ← leaving (onTheWay act)
  update fun s => { s with loops := s.loops - 1 }
  leave.forM throw

/-- Repeats a body as long as a condition says so, and leaves the status of its last run. `fuel` bounds
the turns; a loop that goes on beyond ends as if nobody read its output. -/
def repeatWhile (kit : Kit) (inverted : Bool) (condition body : Command) : Nat → Nat → Act Unit
  | 0, _ => throw (.killed 13)
  | fuel + 1, last => do
    let goesOn ← turn (asking (kit.evaluate condition))
    if !goesOn then status last
    else if ((← state).status = 0) = inverted then status last
    else
      let goesOn ← turn (kit.evaluate body)
      let status := (← state).status
      if goesOn then repeatWhile kit inverted condition body fuel status

/-- Runs a body for each of some values of a variable. -/
def runEach (kit : Kit) (name : Octets) (body : Command) : List Octets → Act Unit
  | [] => pure ()
  | value :: rest => do
    assign name value
    if ← turn (kit.evaluate body) then runEach kit name body rest

/-- Runs the first branch that has a pattern for a text. -/
def runMatching (kit : Kit) (subject : Octets) : List Branch → Act Unit
  | [] => status 0
  | .mk patterns body :: rest => do
    if ← firstFit patterns then kit.evaluate body else runMatching kit subject rest
where
  firstFit : List Word → Act Bool
    | [] => pure false
    | word :: rest => do
      let pattern := Pattern.ofGlyphs (← expandGlyphs kit false word)
      if pattern.fits subject then return true else firstFit rest

/-- Begins a command in the background, where it has an empty input. -/
def runBackground (body : Command) : Act Unit := do
  let s ← get
  let number := s.host.lastProgram + 1
  set { s with host := { s.host with lastProgram := number } }
  let nothing ← addStream (.device .null)
  let work := ({ (s.shell.inner number).connect 0 nothing with isLast := true }, body)
  modify fun s => { s with jobs := s.jobs ++ [⟨number, some work, 0⟩] }
  update fun s => { s with lastJob := some number, status := 0 }

/-- Runs a command, given what runs those inside it. -/
def step (kit : Kit) (command : Command) : Act Unit := do
  receiveAll kit
  match command with
  | .simple line assignments words redirections =>
    update fun s => { s with line := line }
    runSimple kit assignments words redirections
    checkStatus
  | .sequence commands => runSequence kit commands
  | .both first second =>
    asking (kit.evaluate first)
    if (← state).status = 0 then kit.evaluate second
  | .either first second =>
    asking (kit.evaluate first)
    if (← state).status ≠ 0 then kit.evaluate second
  | .negate body =>
    asking (kit.evaluate body)
    status (if (← state).status = 0 then 1 else 0)
  | .pipe commands =>
    runPipe kit none commands
    checkStatus
  | .background body => runBackground body
  | .subshell body =>
    let s ← state
    if s.isLast && s.traps.isEmpty then
      kit.evaluate body
      throw .exiting
    else
      let ending ← inside kit ({ · with isLast := true }) (kit.evaluate body)
      status ending.status
      checkStatus
  | .choose condition yes no =>
    asking (kit.evaluate condition)
    if (← state).status = 0 then kit.evaluate yes else kit.evaluate no
  | .repeats inverted condition body => looping (repeatWhile kit inverted condition body kit.limit 0)
  | .each name words body =>
    let values := (← words.mapM (expandFields kit)).flatten
    status 0
    looping (runEach kit name body values)
  | .matching subject branches => runMatching kit (← expandText kit false subject) branches
  | .define name body =>
    update fun s =>
      { s with functions := (name, body) :: s.functions.filter (·.1 ≠ name), status := 0 }
  | .redirect body redirections =>
    keepingDescriptors do
      if ← redirectAll kit redirections then onTheWay (kit.evaluate body) else status 2
  receiveAll kit

/-- Runs the lines of a script, which begins at a line. With `ends` the shell ends with the script.
`fuel` bounds the lines. -/
def runLines (evaluate : Command → Act Unit) (ends : Bool) : Nat → Cursor → Act Unit
  | 0, _ => pure ()
  | fuel + 1, cursor => do
    match readLine { cursor with aliases := (← state).aliases } with
    | .error fault =>
      update fun s => { s with line := fault.line }
      fail fault.message
    | .ok (none, _) => pure ()
    | .ok (some command, rest) =>
      let isEnd := ends && rest.rest.isEmpty && cursor.rest.getLast? ≠ some '\n'
      if isEnd then update fun s => { s with isLast := true }
      if !(← hasOption 'n') then
        if isEnd then evaluate command else onTheWay (evaluate command)
      runLines evaluate ends fuel rest

/-- Runs a script. -/
def interpret (evaluate : Command → Act Unit) (ends : Bool) (script : Octets) (line : Nat) : Act Unit :=
  runLines evaluate ends (script.length + 1) ⟨script, line, 0, []⟩

/-- Runs a command. `fuel` bounds how deep commands stand in each other, and the turns of loops. -/
def evaluate (launch : Launcher) : Nat → Command → Act Unit
  | 0, _ => throw (.killed 11)
  | fuel + 1, command =>
    step {
      launch := launch
      evaluate := evaluate launch fuel
      interpret := interpret (evaluate launch fuel) false
      limit := fuel } command

/-! ## The program -/

/-- How a shell is called. -/
structure Call where
  options : List Char
  /-- Whether the script is the first of the words. -/
  isText : Bool
  words : List Octets

/-- Reads the options at the front of the words of a call. -/
def readCall (c : Call) : List Octets → Except Octets Call
  | [] => .ok c
  | word :: rest =>
    match word with
    | ['-'] => .ok { c with words := rest }
    | ['-', '-'] => .ok { c with words := rest }
    | sign :: letters =>
      if (sign = '-' || sign = '+') && !letters.isEmpty then
        let on : Bool := sign = '-'
        let known := 'o' :: 'c' :: Builtin.optionNames.map Prod.snd
        match letters.find? (!known.contains ·) with
        | some letter => .error ("Illegal option ".toList ++ [sign, letter])
        | none =>
          let plain := letters.filter fun l => l ≠ 'o' && l ≠ 'c'
          let others := c.options.filter (!plain.contains ·)
          let c := { c with
            options := if on then plain ++ others else others
            isText := c.isText || letters.contains 'c' && on }
          if letters.contains 'o' then
            match rest with
            | [] => .ok c
            | name :: rest =>
              match Builtin.optionNames.lookup (String.ofList name) with
              | none => .error ("Illegal option ".toList ++ sign :: "o ".toList ++ name)
              | some letter =>
                let others := c.options.filter (· ≠ letter)
                readCall { c with options := if on then letter :: others else others } rest
          else readCall c rest
      else .ok { c with words := word :: rest }
    | [] => .ok { c with words := word :: rest }

/-- The path by which a shell knows its working directory: the one that it is told, if it leads
there. -/
def startDirectory (context : Context) (h : Host) : Octets :=
  let place := context.site.workingDirectory
  match context.setting? "PWD" with
  | some told =>
    if told.head? = some '/' && (context.files h).canonical? told.toPath = some place then told
    else Builtin.locationText place
  | none => Builtin.locationText place

/-- The variables with which a shell begins. -/
def startVariables (context : Context) (directory : Octets) : List (Octets × Variable) :=
  let own (name value : String) : Octets × Variable := (name.toList, ⟨some value.toList, false, false⟩)
  let known := context.environment.filter fun (name, _) =>
    isName name && !(["IFS", "PWD", "PPID", "OPTIND"].contains (String.ofList name))
  let given := known.map fun (name, value) => (name, (⟨some value, true, false⟩ : Variable))
  let usual := [own "PS1" "# ", own "PS2" "> ", own "PS4" "+ ",
    own "PATH" "/usr/local/sbin:/usr/local/bin:/usr/sbin:/usr/bin:/sbin:/bin"]
  [own "IFS" " \t\n", own "OPTIND" "1",
    ("PPID".toList, ⟨some (Octets.ofNat context.parent), false, false⟩),
    ("PWD".toList, ⟨some directory, true, false⟩)]
    ++ usual.filter (fun v => (given.lookup v.1).isNone) ++ given

/-- The state with which a shell begins. -/
def startState (plain : Bool) (context : Context) (h : Host) (c : Call) (name : Octets)
    (arguments : List Octets) : State :=
  let directory := startDirectory context h
  { context := context, bindings := startVariables context directory, functions := [], aliases := []
    options := c.options, mask := 0o22, plain := plain
    name := name, arguments := arguments, directory := directory
    number := context.program, status := 0, outputStatus := none, loops := 0, calls := 0, line := 0
    command := none, traps := [], saved := [], inFunction := false, asked := false, isLast := false
    lastJob := none, optionOffset := 0 }

/-- The bound on the depth of commands and on the turns of loops. -/
def fuelOfShell : Nat := 20000

/-- The shell as a program. `plain` says that it writes text as it is unless it is told to replace
escapes. -/
def program (plain : Bool) (launch : Launcher) (arguments : List Octets) : Task Ending := do
  let context ← read
  let call := readCall ⟨[], false, []⟩ arguments
  let options : Call := call.toOption.getD ⟨[], false, []⟩
  let act : Act Unit := do
    match call with
    | .error message => fail message
    | .ok c =>
      let run (ends : Bool) (script : Octets) : Act Unit :=
        interpret (evaluate launch fuelOfShell) ends script 1
      if c.isText then
        match c.words with
        | [] => fail "-c requires an argument".toList
        | script :: rest =>
          update fun s => { s with name := rest.headD s.name, arguments := rest.drop 1 }
          run true script
      else
        match c.words with
        | file :: rest =>
          if c.options.contains 's' then
            update fun s => { s with arguments := c.words }
            run false ((← perform (Task.readAll 0)).toOption.getD [])
          else
            match ← perform (Task.content file) with
            | .ok text =>
              update fun s => { s with name := file, arguments := rest }
              run false text
            | .error cause =>
              if cause ≠ .isDirectory then
                fail ("cannot open ".toList ++ file ++ ": ".toList ++ openNote cause "No such file")
        | [] => run false ((← perform (Task.readAll 0)).toOption.getD [])
  let kit : Kit := {
    launch := launch
    evaluate := evaluate launch fuelOfShell
    interpret := interpret (evaluate launch fuelOfShell) false
    limit := fuelOfShell }
  let whole : Act Ending := do
    let ending ← finish kit act
    runJobs kit
    return ending
  let h ← get
  let (result, session) := (whole.run).run ⟨startState plain context h options context.name [], h, []⟩
  set session.host
  return match result with
    | .ok ending => ending
    | .error _ => .exited session.shell.status

end CallbackWeave.Shell

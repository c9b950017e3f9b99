import CallbackWeave.Preprocessor.Predefined
import CallbackWeave.Preprocessor.Reading
import CallbackWeave.Utility.Options

/-!
The program that prepares sources: its arguments, and what it prints around the files.
-/

namespace CallbackWeave.Preprocessor

open Utility (Tool)

/-- What the arguments of the program ask for. -/
structure Request where
  /-- Whether sources are prepared, and not more than that. -/
  prepares : Bool
  /-- Whether lines are told of. -/
  marked : Bool
  /-- Whether only the names of files are told; the flag says whether this is about files of the
  system too. -/
  dependencies : Option Bool
  /-- Whether the working directory is told of. -/
  located : Bool
  /-- Whether the files of the system are there. -/
  standard : Bool
  dialect : Predefined.Dialect
  language : Option Octets
  /-- The names to be defined, with text, or not to be defined. -/
  names : List (Octets × Bool)
  headers : List Octets
  quoteDirectories : List Octets
  directories : List (Octets × Octets)
  output : Option Octets
  inputs : List (Octets × Option Octets)

namespace Request

/-- What is asked for without arguments. -/
def empty (prepares : Bool) : Request :=
  { prepares := prepares, marked := true, dependencies := none, located := false
    standard := true, dialect := .usual
    language := none, names := [], headers := [], quoteDirectories := [], directories := []
    output := none, inputs := [] }

/-- The options with a value, longer ones first. -/
def valued : List String :=
  ["-include", "-imacros", "-isystem", "-iquote", "-idirafter", "-MF", "-MT", "-MQ", "-D", "-U", "-I",
    "-L", "-l", "-o", "-x"]

/-- Takes note of an option with a value. -/
def withValue (r : Request) (option : String) (value : Octets) : Request :=
  match option with
  | "-include" => { r with headers := r.headers ++ [value] }
  | "-isystem" | "-idirafter" =>
    { r with directories := r.directories ++ [(value, " 3".toList)] }
  | "-iquote" => { r with quoteDirectories := r.quoteDirectories ++ [value] }
  | "-I" =>
    let (own, system) := r.directories.partition (·.2.isEmpty)
    { r with directories := own ++ (value, []) :: system }
  | "-D" => { r with names := r.names ++ [(value, true)] }
  | "-U" => { r with names := r.names ++ [(value, false)] }
  | "-o" => { r with output := some value }
  | "-x" => { r with language := if value = "none".toList then none else some value }
  | _ => r

/-- Options that change nothing here. -/
def idle : List String :=
  ["-c", "-S", "-C", "-CC", "-w", "-v", "-MD", "-MMD", "-MP", "-MG", "-undef", "-pedantic",
    "-pedantic-errors", "-pipe", "-H", "-s", "-static", "-shared", "-pthread", "-trigraphs", "-nostdlib",
    "-nodefaultlibs", "-nostartfiles", "-rdynamic", "-no-pie", "-pie", "-save-temps", "-p", "-pg"]

/-- Takes note of an option without a value, if it is known. -/
def withOption? (r : Request) (option : String) : Option Request :=
  match option with
  | "-E" => some { r with prepares := true }
  | "-P" => some { r with marked := false }
  | "-M" => some { r with prepares := true, dependencies := some true }
  | "-MM" => some { r with prepares := true, dependencies := some false }
  | "-nostdinc" => some { r with standard := false }
  | "-ansi" => some { r with dialect := { r.dialect with version := none, strict := true } }
  | _ =>
    if option.startsWith "-std=" then
      (Predefined.Dialect.ofName? (option.drop 5).toString).map fun d =>
        { r with dialect := { d with optimized := r.dialect.optimized } }
    else if option.startsWith "-O" then
      some { r with dialect := { r.dialect with optimized := option ≠ "-O0" } }
    else if option = "-fworking-directory" || option.startsWith "-g" && option ≠ "-g0" then
      some { r with located := true }
    else if idle.contains option || ["-W", "-f", "-m", "-g", "-d"].any (option.startsWith ·) then some r
    else none

/-- Reads the arguments of the program. -/
def read (r : Request) : List Octets → Except String Request
  | [] => .ok r
  | argument :: rest =>
    let text := String.ofList argument
    if argument.head? ≠ some '-' || argument = ['-'] then
      read { r with inputs := r.inputs ++ [(argument, r.language)] } rest
    else
      match valued.find? fun option => text.startsWith option with
      | some option =>
        if text ≠ option then read (r.withValue option (argument.drop option.length)) rest
        else
          match rest with
          | value :: rest => read (r.withValue option value) rest
          | [] => .error ("missing argument to '" ++ option ++ "'")
      | none =>
        match r.withOption? text with
        | some r => read r rest
        | none => .error ("unrecognized command-line option '" ++ text ++ "'")

/-- The arguments with those that are meant for a part of the program alone. -/
def unwrapped (arguments : List Octets) : List Octets :=
  arguments.flatMap fun argument =>
    if argument = "-Xpreprocessor".toList then []
    else if "-Wp,".toList.isPrefixOf argument then (argument.drop 4).splitOn ','
    else [argument]

end Request

/-- The directories of the system in which headers are looked for. -/
def systemDirectories : List Octets :=
  ["/usr/lib/gcc/x86_64-linux-gnu/13/include", "/usr/local/include", "/usr/include/x86_64-linux-gnu",
    "/usr/include"].map String.toList

/-- A source that is to be prepared: the name by which it is told of, and its content. -/
structure Source where
  name : Octets
  content : Octets

/-- What stands before a source. -/
def opening (r : Request) (directory name : Octets) : Octets :=
  let line (number : String) (name : Octets) (marks : String) : Octets :=
    "# ".toList ++ number.toList ++ " \"".toList ++ Token.escaped name ++ '"' :: marks.toList ++ ['\n']
  let fixed : Octets := "<command-line>".toList
  line "0" name "" ++ (if r.located then line "1" (directory ++ "//".toList) "" else [])
    ++ line "0" "<built-in>".toList "" ++ line "0" fixed ""
    ++ if r.standard then
        line "1" "/usr/include/stdc-predef.h".toList " 1 3 4" ++ line "0" fixed " 2"
      else []

/-- What is held before anything has been read. -/
def initial (r : Request) (directory name : Octets) : State :=
  let printer : Printer :=
    { output := if r.marked then [opening r directory name] else [], printed := false, line := 0
      previous := none, source := none, padded := false, ofSystem := false }
  { frames := [], expansions := [], busy := [], macros := Predefined.macros r.dialect, closed := false
    inDirective := false, holds := false, stage := .outside, skipping := false, counter := 0
    once := [], guards := [], opened := [], saved := [], printer := printer, messages := []
    failed := false }

/-- Reads a source from its beginning to its end. -/
def readSource (r : Request) (source : Source) : Act Unit := do
  for (text, isDefined) in r.names do
    let (name, value) := Octets.splitAt '=' text
    let line := if isDefined then name ++ ' ' :: value.getD ['1'] else name
    if isDefined then Act.runDefine (Token.ofPiece line) ⟨0, 0⟩
    else Act.define name none
  for header in r.headers do Act.printHeader header
  Act.printFile source.name source.content

/-- The names of the files that a source needs, as a rule for making things. -/
def dependencyRule (source : Source) (files : List Octets) : Octets :=
  let base := (source.name.reverse.takeWhile (· ≠ '/')).reverse
  let stem := match base.reverse.dropWhile (· ≠ '.') with
    | _ :: front => if front.isEmpty then base else front.reverse
    | [] => base
  let front := stem ++ ".o:".toList
  let (text, _) := files.foldl (fun (text, column) file =>
      if 75 < column + file.length + 1 then
        (text ++ " \\\n ".toList ++ file, file.length + 1)
      else (text ++ ' ' :: file, column + file.length + 1))
    (front, front.length)
  text ++ ['\n']

/-- Prepares a source; the result is what is printed and whether there were errors. -/
def prepare (r : Request) (source : Source) : Task (Octets × Bool) := do
  let files ← Task.files
  let directory := Octets.ofText files.workingPath.text
  let content? (path : Octets) : Option Octets :=
    (files.read path.toPath).toOption.map Octets.ofBytes
  let standard := if r.standard then systemDirectories.map fun d => (d, " 3 4".toList) else []
  let settings : Settings :=
    { marked := r.marked, base := source.name, quoteDirectories := r.quoteDirectories
      directories := r.directories ++ standard, content? := content? }
  let (_, s) := ((readSource r source).run settings).run.run (initial r directory source.name)
  Task.writeTo 2 s.messages.reverse.flatten
  let output :=
    match r.dependencies with
    | none => s.printer.output.reverse.flatten
    | some all =>
      let opened := (s.opened.reverse.filter fun (_, marks) => all || marks.isEmpty).map Prod.fst
      let others := (opened.filter (· ≠ source.name)).eraseDups
      let standard := if all && r.standard then ["/usr/include/stdc-predef.h".toList] else []
      dependencyRule source (source.name :: standard ++ others)
  return (output, s.failed)

/-- Whether a file is a source by its name or by the language that was named for it. -/
def isSource (name : Octets) (language : Option Octets) : Bool :=
  match language with
  | some _ => true
  | none =>
    let ending := (name.reverse.takeWhile (· ≠ '.')).reverse
    name = ['-'] || name.contains '.' && ["c", "h"].contains (String.ofList ending)

/-- Prepares all sources that are asked for. -/
def prepareAll (r : Request) : Task Nat := do
  let mut output : Octets := []
  let mut failed := false
  for (name, language) in r.inputs do
    if isSource name language then
      match ← Task.content name with
      | .ok content =>
        let told := if name = ['-'] then "<stdin>".toList else name
        let (text, bad) ← prepare r ⟨told, content⟩
        output := output ++ text
        failed := failed || bad
      | .error cause =>
        Task.writeTo 2 ("cc1: fatal error: ".toList ++ name ++ ": ".toList
          ++ Octets.ofText cause.plainMessage ++ "\ncompilation terminated.\n".toList)
        failed := true
    else if (← Task.files).holds name.toPath then
      Task.complain ("warning: " ++ name.toText
        ++ ": linker input file unused because linking not done")
    else
      Task.complain ("error: linker input file not found: No such file or directory")
      failed := true
  match r.output with
  | none => Task.print output
  | some name =>
    if name = ['-'] then Task.print output
    else if !failed then
      match ← Task.store name output with
      | none => pure ()
      | some _ => failed := true
  return if failed then 1 else 0

/-- The program that prepares sources. If that is not all that it does for its name, it has to be asked
for. -/
def tool (prepares : Bool) : Tool := fun _ arguments => do
  match (Request.empty prepares).read (Request.unwrapped arguments) with
  | .error message => Task.complain ("error: " ++ message); return .exited 1
  | .ok r =>
    let r : Request :=
      if prepares then
        match r.inputs with
        | [] => { r with inputs := [(['-'], none)] }
        | [(input, _)] => { r with inputs := [(input, some ['c'])] }
        | [(input, _), (output, _)] =>
          { r with inputs := [(input, some ['c'])], output := some output }
        | _ => r
      else r
    if arguments = ["-dumpversion".toList] then
      Task.printLine "13".toList
      return .exited 0
    else if arguments = ["-dumpmachine".toList] then
      Task.printLine "x86_64-linux-gnu".toList
      return .exited 0
    else if r.inputs.isEmpty then
      Task.writeTo 2 ((← read).name
        ++ ": fatal error: no input files\ncompilation terminated.\n".toList)
      return .exited 1
    else if r.prepares then return .exited (← prepareAll r)
    else return .exited 1

end CallbackWeave.Preprocessor

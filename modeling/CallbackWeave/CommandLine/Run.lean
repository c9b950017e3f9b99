import CallbackWeave.CommandLine.Arguments
import CallbackWeave.CommandLine.Complaint
import CallbackWeave.Filter.Elision
import CallbackWeave.Filter.Input
import CallbackWeave.Pipeline.Batch
import CallbackWeave.Settings.Reader

/-!
The two commands of the program: one instruments the units of a database, and the other removes
from preprocessed text what does not belong to a project. Each works on a file system and gives
what the program prints, how it ends and the tree that it leaves.
-/

namespace CallbackWeave

/-- What a command gives: a complaint if it gave up, the bytes that were printed, and the tree. -/
structure CommandEnd where
  result : Except Complaint Unit
  output : Bytes
  tree : FileTree

/-- What the filter is asked for. -/
structure FilterRequest where
  /-- The directory of the project. -/
  directory : Path
  /-- The file that is written; without one the result is printed. -/
  output : Option Path
  expandHeaders : Bool
  /-- Where preprocessed text comes from, if anything was said about it. -/
  input : Option FilterInput
  /-- The settings file. -/
  settings : Option Path
deriving DecidableEq, Repr

/-- What the pipeline is asked for. -/
structure InstrumentRequest where
  batch : BatchRequest
  /-- The settings file. -/
  settings : Option Path
deriving DecidableEq, Repr

/-- Reads the settings of a command. -/
def loadSettings (fs : FileSystem) : Option Path → Except Complaint Settings
  | none => .ok .standard
  | some path =>
    match Settings.load fs path with
    | .ok settings => .ok settings
    | .error failure => .error (.during ("failed to load configuration from " ++ path.text) failure)

namespace FilterRequest

/-- What is checked before any text is read: the settings, the source of the text and the
directory of the project. -/
def prepare (r : FilterRequest) (fs : FileSystem) : Except Complaint (Settings × FilterInput) := do
  let settings ← loadSettings fs r.settings
  match r.input with
  | none =>
    throw ⟨"nothing to filter: pass --input <FILE> or a command after \x60--\x60", []⟩
  | some input =>
    let directory := fs.absolutize r.directory
    if fs.isDirectory directory then return (settings, input)
    throw ⟨directory.text ++ ": invalid project directory", []⟩

/-- The boundary of the project. -/
def boundary (r : FilterRequest) (fs : FileSystem) (settings : Settings) : Boundary :=
  let b := Boundary.ofSettings (fs.absolutize r.directory) settings.filter
  { b with expandHeaders := r.expandHeaders || settings.filter.expandHeaders }

/-- Writes filtered bytes to where they are asked for. -/
def deliver (r : FilterRequest) (fs : FileSystem) (bytes : Bytes) : CommandEnd :=
  match r.output with
  | none => ⟨.ok (), bytes, fs.tree⟩
  | some path =>
    match fs.writable path with
    | .error cause => ⟨.error ⟨"failed to create " ++ path.text, [cause.message]⟩, [], fs.tree⟩
    | .ok _ =>
      let printed := if fs.device? path = some .output then bytes else []
      match fs.write path bytes with
      | .ok tree => ⟨.ok (), printed, tree⟩
      | .error cause => ⟨.error ⟨cause.message, []⟩, [], fs.tree⟩

/-- Filters. Nothing is written unless the text has been read. -/
def perform (r : FilterRequest) (starter : Starter) (fs : FileSystem) : CommandEnd :=
  match r.prepare fs with
  | .error complaint => ⟨.error complaint, [], fs.tree⟩
  | .ok (settings, input) =>
    match input.read starter fs with
    | (.error failure, tree) =>
      ⟨.error (.during "failed to obtain preprocessed input" failure), [], tree⟩
    | (.ok bytes, tree) =>
      let fs := { fs with tree := tree }
      r.deliver fs (Elision.write (Elision.filterBytes (r.boundary fs settings) fs bytes).lines)

end FilterRequest

namespace InstrumentRequest

/-- Instruments the units of a database. The report of the run follows what the tools print. -/
def perform (r : InstrumentRequest) (starter : Starter) (fs : FileSystem) : CommandEnd :=
  match loadSettings fs r.settings with
  | .error complaint => ⟨.error complaint, [], fs.tree⟩
  | .ok settings =>
    let runner := starter.runner fs.toSite
    match r.batch.execute settings.pipeline runner false fs.toSite ⟨fs.tree, [], []⟩ with
    | (.ok report, w) => ⟨.ok (), w.state ++ Utf8.encode (report.text ++ "\n"), w.tree⟩
    | (.error failure, w) =>
      ⟨.error (.during "instrumentation run aborted" failure), w.state, w.tree⟩

end InstrumentRequest

namespace CommandLine

/-- What a command line asks for. -/
inductive Request where
  | instrument (request : InstrumentRequest)
  | filter (request : FilterRequest)

/-- The flags of every command. -/
def commonFlags : List (String × Option Char) := [("verbose", some 'v'), ("help", some 'h')]

/-- What the instrumenting command accepts. -/
def instrumentGrammar : Grammar where
  flags := commonFlags
  options := [("files", none), ("config", none)]
  positionals := 3
  takesCommand := false

/-- What the filtering command accepts. -/
def filterGrammar : Grammar where
  flags := ("expand-headers", none) :: commonFlags
  options := [("output", some 'o'), ("input", none), ("config", none)]
  positionals := 1
  takesCommand := true

/-- The request of an instrumenting command. -/
def instrumentRequest (f : Found) : Except Stop InstrumentRequest :=
  match f.positionals with
  | [tools, callbacks, commands] =>
    .ok ⟨⟨⟨tools⟩, ⟨callbacks⟩, ⟨commands⟩, (f.option? "files").map Path.mk⟩,
      (f.option? "config").map Path.mk⟩
  | _ => .error .misuse

/-- The request of a filtering command. Text comes from a file or from a command, not from both. -/
def filterRequest (f : Found) : Except Stop FilterRequest := do
  let input ← match f.option? "input", f.command with
    | none, [] => pure none
    | some path, [] => pure (some (FilterInput.file ⟨path⟩))
    | none, tokens => pure (some (.command tokens))
    | some _, _ :: _ => throw .misuse
  match f.positionals with
  | [directory] =>
    return ⟨⟨directory⟩, (f.option? "output").map Path.mk, f.flags.contains "expand-headers", input,
      (f.option? "config").map Path.mk⟩
  | _ => throw .misuse

/-- Takes the flags in front of a command; `seen` are those that have been given. -/
def takeLeading (seen : Found) : List String → Except Stop (String × List String)
  | [] => .error .misuse
  | argument :: rest =>
    let leading : Grammar := ⟨("version", some 'V') :: commonFlags, [], 0, false⟩
    match argument.toList with
    | ['-', '-'] | ['-'] => .error .misuse
    | '-' :: '-' :: text => do
      let (seen, _) ← takeName leading seen text
      takeLeading seen rest
    | '-' :: letters => do
      let (seen, _) ← takeLetters leading seen letters
      takeLeading seen rest
    | _ => .ok (argument, rest)

/-- What comes of asking for help about commands: there is none about an unknown one. -/
def helpAbout (names : List String) : Stop :=
  match names with
  | [] => .help
  | [name] => if ["instrument", "filter", "help"].contains name then .help else .misuse
  | _ => .misuse

/-- The request of a command line. -/
def request (arguments : List String) : Except Stop Request := do
  let (command, rest) ← takeLeading .empty arguments
  match command with
  | "instrument" => return .instrument (← instrumentRequest (← instrumentGrammar.read rest))
  | "filter" => return .filter (← filterRequest (← filterGrammar.read rest))
  | "help" => throw (helpAbout rest)
  | _ => throw .misuse

/-- What the program does: the code with which it ends, what it prints, what it reports as an
error, and the tree that it leaves. -/
structure Answer where
  code : Nat
  output : Bytes
  errors : String
  tree : FileTree

/-- The name and the version of the program. -/
def versionText : String := "hookpass 0.1.0\n"

/-- How the program is called. -/
def usageText : String :=
  "Usage: hookpass [OPTIONS] <COMMAND>\n\nCommands:\n"
    ++ "  instrument  Instrument every translation unit of a compile database in place\n"
    ++ "  filter      Remove content that is not part of the project from preprocessed output\n"

/-- The answer of a command that has ended. -/
def Answer.ofEnd (e : CommandEnd) : Answer :=
  match e.result with
  | .ok () => ⟨0, e.output, "", e.tree⟩
  | .error complaint => ⟨1, e.output, complaint.report, e.tree⟩

/-- Runs a command line. -/
def run (starter : Starter) (fs : FileSystem) (arguments : List String) : Answer :=
  match request arguments with
  | .error .misuse => ⟨2, [], usageText, fs.tree⟩
  | .error .version => ⟨0, Utf8.encode versionText, "", fs.tree⟩
  | .error .help => ⟨0, Utf8.encode usageText, "", fs.tree⟩
  | .ok (.instrument request) => .ofEnd (request.perform starter fs)
  | .ok (.filter request) => .ofEnd (request.perform starter fs)

end CommandLine

end CallbackWeave

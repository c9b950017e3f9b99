import CallbackWeave.Pipeline.World
import CallbackWeave.Programs

/-!
Starting programs in a file system. A program is started in a directory with some arguments and an
empty input, and it ends with a status, an output and a changed tree. What reads the output of
programs or calls tools takes any starter, so that statements about it hold for all programs; the
standard one knows the programs of a usual host.
-/

namespace CallbackWeave

/-- What a process that has been started leaves behind. -/
structure ProcessEnd where
  status : ExitStatus
  output : Bytes
  tree : FileTree

/-- Starts programs: from a file system, a program, its arguments and the directory in which it
runs, if that is not the working directory. -/
abbrev Starter := FileSystem → Path → List String → Option Path → Except IoError ProcessEnd

namespace Starter

/-- Whether a text holds the character that would end it for the operating system. -/
def holdsNul (text : String) : Bool := text.toList.contains '\x00'

/-- A file system as seen from a directory. -/
def enter (fs : FileSystem) (directory : Path) : Except IoError FileSystem := do
  let spot ← fs.locate .target directory
  match spot.entry with
  | some .directory => pure { fs with workingDirectory := spot.place }
  | some _ => throw .notDirectory
  | none => throw .noSuchEntry

/-- The environment of programs. -/
def environment : List (Octets × Octets) :=
  [("PATH".toList, "/usr/local/sbin:/usr/local/bin:/usr/sbin:/usr/bin:/sbin:/bin".toList),
    ("HOME".toList, "/root".toList)]

/-- What a program sees that is started in a file system: its input is empty, and its output and its
messages are kept apart. -/
def contextOf (site : Site) (name : Octets) : Context :=
  { site := site, descriptors := [(0, 0), (1, 1), (2, 2)], environment := environment, name := name
    program := 4242, parent := 4241 }

/-- A host with an input, an output and messages. -/
def hostOf (tree : FileTree) : Host :=
  { tree := tree, streams := #[.device .null, .pipe [] [], .pipe [] []], signals := []
    lastProgram := 4242, writeFault := none }

/-- Starts a program and waits for its end. -/
def standard : Starter := fun fs program arguments directory => do
  let texts := program.text :: arguments ++ directory.toList.map Path.text
  if texts.any holdsNul then throw .nulInArgument
  let fs ← match directory with
    | some directory => enter fs directory
    | none => pure fs
  let words := (program.text :: arguments).map Octets.ofText
  let context := contextOf fs.toSite (words.headD [])
  let directories := (context.setting? "PATH").getD Context.usualDirectories
  let launch := Programs.launch Programs.depthLimit
  let (ending, host) ← launch.named context directories words (hostOf fs.tree)
  let code := match ending with
    | .exited status => some (status : Int)
    | .killed _ => none
  let (output, host) := host.readAll 1
  pure ⟨⟨code⟩, (output.toOption.getD []).toBytes, host.tree⟩

/-- Runs the calls of a pipeline as processes. Its state is all that they have written. -/
def runner (starter : Starter) (site : Site) : Runner Bytes :=
  fun written invocation tree =>
    let program := Invocation.resolveProgram invocation.directory invocation.program
    match starter ⟨site, tree⟩ program invocation.arguments (some invocation.directory) with
    | .ok ended => (.ok ended.status, written ++ ended.output, ended.tree)
    | .error cause => (.error (.spawn program cause), written, tree)

end Starter

end CallbackWeave

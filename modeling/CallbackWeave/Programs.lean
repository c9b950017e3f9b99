import CallbackWeave.Awk.Run
import CallbackWeave.Editor.Run
import CallbackWeave.Preprocessor.Run
import CallbackWeave.Shell.Run
import CallbackWeave.Utility.Comparison
import CallbackWeave.Utility.Date
import CallbackWeave.Utility.Digest
import CallbackWeave.Utility.Dump
import CallbackWeave.Utility.Fields
import CallbackWeave.Utility.Grep
import CallbackWeave.Utility.Join
import CallbackWeave.Utility.Launching
import CallbackWeave.Utility.Pieces
import CallbackWeave.Utility.Session
import CallbackWeave.Utility.Sort
import CallbackWeave.Utility.Words

/-!
The programs that a host has, and what the operating system does to run a file: a file is a program, or
a script that names the program that reads it.
-/

namespace CallbackWeave

namespace Programs

open Utility

/-- What a file begins with that is a program; its name follows. -/
def marker : Bytes := [0x7F, 0x45, 0x4C, 0x46, 0x02, 0x01, 0x01, 0x00, 0xFF]

/-- The content of the file of a program. -/
def contentOf (name : String) : Bytes := marker ++ Utf8.encode name

/-- A program whose options are read first; `failure` is its status if they cannot be. -/
def withTable (table : OptionTable) (failure : Nat) (run : Parsed → Task Nat) : Tool :=
  .simple (withOptions table failure run)

/-- A program without options. -/
def bare (letters : String) (run : Parsed → Task Nat) : Tool := withTable ⟨letters, [], true⟩ 1 run

/-- A program that writes all of its output at its end. -/
def buffered (tool : Tool) : Tool := fun launch arguments => do
  match (← read).descriptors.lookup 1 with
  | none => tool launch arguments
  | some _ =>
    let index ← Task.addStream (.pipe [] [])
    let ending ← Task.withStream 1 index (tool launch arguments)
    let (output, h) := (← get).readAll index
    set h
    Task.print (output.toOption.getD [])
    return ending

/-- The programs by their names. -/
def table : List (String × Tool) :=
  [("dash", Shell.program false), ("bash", Shell.program true),
    ("true", .simple fun _ => pure 0), ("false", .simple fun _ => pure 1),
    ("sleep", .simple fun _ => pure 0), ("sync", .simple fun _ => pure 0),
    ("echo", .simple Echo.run), ("printf", .simple runPrintf),
    ("test", .simple (runCondition false)), ("[", .simple (runCondition true)),
    ("expr", .simple Expression.run), ("yes", .simple runYes), ("pwd", .simple runWorkingDirectory),
    ("printenv", .simple runPrintEnvironment), ("which", .simple runWhich),
    ("seq", .simple fun a => withOptions Sequence.options 1 Sequence.run (Sequence.marked a)),
    ("basename", withTable BaseName.options 1 BaseName.run),
    ("dirname", withTable ⟨"z", [], true⟩ 1 BaseName.runDirectory),
    ("cat", withTable Concatenate.options 1 Concatenate.run),
    ("head", .simple fun a => withOptions Extract.options 1 Extract.runHead (Extract.modern ['-'] a)),
    ("tail", .simple fun a =>
      withOptions Extract.options 1 Extract.runTail (Extract.modern ['-', '+'] a)),
    ("wc", withTable Count.options 1 Count.run),
    ("tac", buffered (bare "" reverseLines)), ("rev", buffered (bare "" reverseEach)),
    ("fold", .simple fun a => withOptions Fold.options 1 Fold.run (Fold.modern a)),
    ("expand", withTable Expand.options 1 Expand.run),
    ("unexpand", withTable Expand.options 1 Expand.runBack),
    ("nl", withTable NumberLines.options 1 NumberLines.run),
    ("cut", withTable Cut.options 1 Cut.run), ("paste", withTable Paste.options 1 Paste.run),
    ("comm", withTable Common.options 1 Common.run), ("uniq", withTable Unique.options 1 Unique.run),
    ("tr", withTable Translate.options 1 Translate.run), ("sort", withTable Sort.options 2 Sort.run),
    ("mkdir", withTable MakeDirectory.options 1 MakeDirectory.run),
    ("touch", withTable Touch.options 1 Touch.run), ("ln", withTable Link.options 1 Link.run),
    ("rm", withTable Remove.options 1 Remove.run),
    ("rmdir", withTable ⟨"pv", [("parents", 'p', .none)], true⟩ 1 Remove.runDirectories),
    ("cp", withTable Copy.options 1 Copy.run), ("mv", withTable Move.options 1 Move.run),
    ("chmod", .simple ChangeMode.run), ("readlink", withTable ReadLink.options 1 ReadLink.run),
    ("realpath", withTable ReadLink.options 1 ReadLink.runReal),
    ("ls", withTable ListFiles.options 2 ListFiles.run), ("tee", withTable Tee.options 1 Tee.run),
    ("split", withTable Split.options 1 Split.run), ("dd", .simple Transfer.run),
    ("truncate", withTable Truncate.options 1 Truncate.run), ("unlink", bare "" runUnlink),
    ("link", bare "" fun p => Link.run p), ("mktemp", withTable NewName.options 1 NewName.run),
    ("stat", withTable Status.options 1 Status.run), ("join", withTable Join.options 1 Join.run),
    ("date", withTable Date.options 1 Date.run),
    ("id", withTable Session.identityOptions 1 Session.identity),
    ("whoami", bare "" (Session.tell Session.user)), ("groups", bare "" (Session.tell Session.user)),
    ("nproc", bare "" (Session.tell ['1'])), ("arch", bare "" (Session.tell "x86_64".toList)),
    ("uname", withTable Session.machineOptions 1 Session.machine),
    ("tty", withTable ⟨"s", [("silent", 's', .none), ("quiet", 's', .none)], true⟩ 2 Session.terminal),
    ("logname", bare "" Session.login), ("factor", bare "" Session.runFactors),
    ("md5sum", withTable Digest.options 1 (Digest.run Digest.four)),
    ("sha1sum", withTable Digest.options 1 (Digest.run Digest.five)),
    ("sha256sum", withTable Digest.options 1 (Digest.run Digest.eight)),
    ("cksum", withTable ⟨"", [], true⟩ 1 Digest.runCyclic),
    ("sum", withTable ⟨"rs", [("sysv", 's', .none)], true⟩ 1 Digest.runSum),
    ("cmp", withTable Comparison.options 2 Comparison.run),
    ("diff", withTable Difference.options 2 Difference.run), ("od", withTable Dump.options 1 Dump.run),
    ("base64", withTable Alphabet.options 1 (Alphabet.run .sixtyFour)),
    ("base32", withTable Alphabet.options 1 (Alphabet.run .thirtyTwo)),
    ("grep", withTable Grep.options 2 Grep.run),
    ("sed", buffered Editor.tool), ("mawk", Awk.tool),
    ("gcc-13", Preprocessor.tool false), ("cpp-13", Preprocessor.tool true),
    ("env", Environment.run), ("xargs", Arguments.run), ("find", Find.run),
    ("nohup", runBehind ⟨"", [], false⟩ 0 125),
    ("nice", runBehind ⟨"n:", [("adjustment", 'n', .required)], false⟩ 0 125),
    ("timeout", runBehind ⟨"fk:s:v", [("signal", 's', .required)], false⟩ 1 125),
    ("stdbuf", runBehind ⟨"i:o:e:", [], false⟩ 0 125),
    ("setsid", runBehind ⟨"cfw", [], false⟩ 0 1)]

/-- The name of the program that the content of a file holds. -/
def nameIn? (content : Bytes) : Option String :=
  if marker.isPrefixOf content then some (Utf8.decodeLossy (content.drop marker.length)) else none

/-- What the first line of a script names: the program that reads it, and an argument for that
program. -/
def readerOf? (content : Bytes) : Option (Octets × Option Octets) :=
  match Octets.ofBytes (content.take 256) with
  | '#' :: '!' :: text =>
    let isBlank (c : Char) : Bool := c = ' ' || c = '\t'
    let line := (text.takeWhile (· ≠ '\n')).dropWhile isBlank
    let line := (line.reverse.dropWhile isBlank).reverse
    let reader := line.takeWhile (!isBlank ·)
    let argument := (line.drop reader.length).dropWhile isBlank
    if reader.isEmpty then none else some (reader, if argument.isEmpty then none else some argument)
  | _ => none

/-- The tool that the file at a path is, and the words with which it is called. `depth` bounds how many
scripts name each other. -/
def find (files : FileSystem) : Nat → Octets → List Octets → Except IoError (Tool × List Octets)
  | 0, _, _ => .error .tooManyLinks
  | depth + 1, path, words => do
    let spot ← files.locate .target path.toPath
    match spot.entry, files.devices.lookup spot.place with
    | none, _ => throw .noSuchEntry
    | some (.file content true), none =>
      match nameIn? content, readerOf? content with
      | some name, _ => return ((table.lookup name).getD (.simple fun _ => pure 127), words)
      | none, some (reader, argument) =>
        find files depth reader (reader :: argument.toList ++ path :: words.drop 1)
      | none, none => throw .notProgram
    | some _, _ => throw .permissionDenied

/-- The ending of a program whose output could not be written. -/
def settle (name : Octets) (ending : Ending) : Task Ending := do
  match (← get).writeFault with
  | none => return ending
  | some cause =>
    modify fun h => { h with writeFault := none }
    if ending = .exited 0 then
      Task.writeTo 2 (name ++ ": write error: ".toList ++ Octets.ofText cause.plainMessage ++ ['\n'])
      return .exited 1
    else return ending

/-- Runs files. `fuel` bounds how many programs run each other. -/
def launch : Nat → Launcher
  | 0 => fun _ _ _ _ => .error (.system 11)
  | fuel + 1 => fun c path words h => do
    let (tool, words) ← find (c.files h) 5 path words
    let name := words.headD []
    let act : Task Ending := do settle name (← tool (launch fuel) (words.drop 1))
    return (act.run { c with name := name }).run h

/-- The bound on how many programs run each other. -/
def depthLimit : Nat := 200

end Programs

end CallbackWeave

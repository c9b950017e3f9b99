import CallbackWeave.CompileCommand.Json
import CallbackWeave.Failure
import CallbackWeave.FileTree.FileSystem

/-!
Databases of compile commands. A database that has been read holds only commands that have at
least one token.
-/

namespace CallbackWeave

/-- The compile commands of a project, in the order in which they are recorded. -/
structure CompileDatabase where
  commands : List CompileCommand
deriving DecidableEq, Repr

namespace CompileDatabase

/-- Why a command cannot be run, if it cannot. -/
def commandFault? (c : CompileCommand) : Option CommandFault :=
  match c.tokens? with
  | none => some .unbalanced
  | some [] => some .empty
  | some (_ :: _) => none

/-- The first command that cannot be run, where the first of the commands has the given index. -/
def firstFault? (index : Nat) : List CompileCommand → Option DatabaseFault
  | [] => none
  | c :: rest =>
    match commandFault? c with
    | some fault => some (.entry index fault)
    | none => firstFault? (index + 1) rest

/-- Reads a database; the path is the one that a failure names. -/
def ofText (path : Path) (text : String) : Except Failure CompileDatabase :=
  match Json.readAll (Json.readList CompileCommand.read) text.toList with
  | .error fault => .error (.malformedDatabase path (.unreadable (fault.message text.toList)))
  | .ok commands =>
    match firstFault? 0 commands with
    | some fault => .error (.malformedDatabase path fault)
    | none => .ok ⟨commands⟩

/-- Reads a database file. -/
def load (fs : FileSystem) (path : Path) : Except Failure CompileDatabase :=
  match fs.readText path with
  | .error cause => .error (.pathIo path cause)
  | .ok text => ofText path text

end CompileDatabase

end CallbackWeave

import CallbackWeave.Failure

/-!
Calls of external programs.
-/

namespace CallbackWeave

/-- One call of an external program. -/
structure Invocation where
  stage : Stage
  program : Path
  arguments : List String
  /-- The directory in which the program runs. -/
  directory : Path
deriving DecidableEq, Repr

namespace Invocation

/-- A call as one line. -/
def text (i : Invocation) : String := " ".intercalate (i.program.text :: i.arguments)

/-- The program to start for a call from a directory. A relative path of several components is
seen from there; a single name is left for the search for programs. -/
def resolveProgram (directory program : Path) : Path :=
  if !program.isAbsolute && program.components.length > 1 then directory.join program else program

end Invocation

/-- How a process ended; it has no code if a signal ended it. -/
structure ExitStatus where
  code : Option Int
deriving DecidableEq, Repr

/-- Whether a process ended well. -/
def ExitStatus.isSuccess (s : ExitStatus) : Bool := s.code = some 0

end CallbackWeave

import CallbackWeave.Path.Normal
import CallbackWeave.Text.ShellWords

/-!
Compile commands: how one translation unit is built, as a build system has recorded it.
-/

namespace CallbackWeave

/-- The recorded command of one translation unit. -/
structure CompileCommand where
  /-- The directory in which the command was run. -/
  directory : Path
  /-- The source file, possibly relative to the directory. -/
  file : Path
  /-- The command as one line with shell quoting. -/
  command : Option String
  /-- The command as a list of tokens. -/
  arguments : Option (List String)
deriving DecidableEq, Repr

namespace CompileCommand

/-- The tokens of a command. A list of tokens takes precedence over a line; a line whose quoting
is unbalanced has no tokens. -/
def tokens? (c : CompileCommand) : Option (List String) :=
  match c.arguments, c.command with
  | some arguments, _ => some arguments
  | none, some line => Text.shellWords? line
  | none, none => some []

/-- The source file as seen from the directory, folded. -/
def sourcePath (c : CompileCommand) : Path := c.directory.resolveIn c.file

/-- The name of the source file without its extension. -/
def stem (c : CompileCommand) : String := c.file.stem?.getD ""

end CompileCommand

end CallbackWeave

import CallbackWeave.FileTree.FileSystem
import CallbackWeave.Settings
import CallbackWeave.Text.LowerCase

/-!
The boundary of a project: which of the files that a preprocessor enters are project content, and
which are foreign and stand in the result as a single include line.
-/

namespace CallbackWeave

/-- What belongs to a project. -/
structure Boundary where
  /-- The directory of the project, folded. -/
  project : Path
  /-- Whether the text of project headers is kept. -/
  expandHeaders : Bool
  /-- The extensions of source files, in small letters. -/
  sourceExtensions : List String
  /-- The names of headers for which no include line is written. -/
  pseudoHeaders : List String
deriving DecidableEq, Repr

namespace Boundary

/-- The boundary of a project directory under some settings. -/
def ofSettings (project : Path) (settings : FilterSettings) : Boundary where
  project := project.normalize
  expandHeaders := settings.expandHeaders
  sourceExtensions := settings.sourceExtensions.map Text.lower
  pseudoHeaders := settings.pseudoHeaders

/-- A name in angle brackets, which stands for no file. -/
def isInternal (name : String) : Bool :=
  name.toList.head? == some '<' && name.toList.getLast? == some '>'

/-- Whether a name has the extension of a source file, in letters of any case. -/
def isSource (b : Boundary) (name : String) : Bool :=
  match (⟨name⟩ : Path).extension? with
  | some extension => ("." ++ Text.lower extension) ∈ b.sourceExtensions
  | none => false

/-- Whether a name leads to a file outside the project. -/
def isOutside (b : Boundary) (fs : FileSystem) (name : String) : Bool :=
  (⟨name⟩ : Path).isAbsolute && fs.holds ⟨name⟩ && !(⟨name⟩ : Path).isInside b.project

/-- Whether a file that is entered is foreign. Unless headers are expanded, all that is no source
file is; and so is any existing file outside the project. -/
def isForeign (b : Boundary) (fs : FileSystem) (name : String) : Bool :=
  !isInternal name && (!b.expandHeaders && !b.isSource name || b.isOutside fs name)

/-- Whether a file is a header for which no include line is written. -/
def isPseudoHeader (b : Boundary) (name : String) : Bool :=
  match (⟨name⟩ : Path).fileName? with
  | some last => last ∈ b.pseudoHeaders
  | none => false

end Boundary

end CallbackWeave

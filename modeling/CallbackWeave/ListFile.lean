import CallbackWeave.Failure
import CallbackWeave.FileTree.FileSystem
import CallbackWeave.Text.Blank

/-!
Plain list files with one entry a line, and the two lists that a run reads from them: the names of
the callbacks, and the source files to which the run is restricted.
-/

namespace CallbackWeave

namespace ListFile

/-- The entries of the text of a list file. -/
def ofText (text : String) : List String := (Text.entries text.toList).map String.ofList

/-- The entries of a list file. -/
def load (fs : FileSystem) (path : Path) : Except Failure (List String) :=
  match fs.readText path with
  | .error cause => .error (.pathIo path cause)
  | .ok text => .ok (ofText text)

end ListFile

/-- The callbacks of a run: the list file that the instrumenting tool is given, and its entries. -/
structure CallbackList where
  path : Path
  names : List String
deriving DecidableEq, Repr

/-- Reads a list of callbacks. -/
def CallbackList.load (fs : FileSystem) (path : Path) : Except Failure CallbackList :=
  (ListFile.load fs (fs.absolutize path)).map fun names => ⟨fs.absolutize path, names⟩

/-- The source files to which a run is restricted. If there is none, the run is not restricted. -/
structure Allowlist where
  files : List Path
deriving DecidableEq, Repr

namespace Allowlist

/-- The list that restricts nothing. -/
def empty : Allowlist := ⟨[]⟩

/-- The list of some paths, each folded and none twice. -/
def ofPaths (paths : List Path) : Allowlist := ⟨(paths.map Path.normalize).eraseDups⟩

/-- Whether a source may be worked on. -/
def admits (a : Allowlist) (source : Path) : Bool :=
  a.files.isEmpty || a.files.any (·.agrees source)

/-- The list of those entries that exist, made absolute. -/
def ofEntries (fs : FileSystem) (entries : List String) : Allowlist :=
  let existing := (entries.map Path.mk).filter fs.holds
  ⟨(existing.map fs.absolutize).eraseDups⟩

/-- Reads a list of source files. A list that does not exist restricts nothing, and entries that
do not exist are dropped. -/
def load (fs : FileSystem) (path : Path) : Except Failure Allowlist :=
  if fs.holds path then (ListFile.load fs path).map (ofEntries fs) else .ok empty

end Allowlist

end CallbackWeave

import CallbackWeave.CompileCommand.Basic
import CallbackWeave.FileTree.FileSystem

/-!
The temporary files of one unit. They stand beside its source and keep its extension, so that a
compiler takes them for the same language.
-/

namespace CallbackWeave

/-- The temporary files of one unit. -/
structure Artifacts where
  /-- What the annotating tool has made of the source. -/
  annotated : Path
  /-- What the compiler has made of the annotated source. -/
  expanded : Path
  /-- What the merging tool has made of the other two. -/
  merged : Path
deriving DecidableEq, Repr

namespace Artifacts

/-- The name of a temporary file. -/
def name (stem tag extension : String) : String :=
  stem ++ "__hookpass_" ++ tag ++ "__." ++ extension

/-- The temporary files of a command. -/
def ofCommand (c : CompileCommand) : Artifacts :=
  let directory := c.sourcePath.parent?.getD ⟨""⟩
  let extension := c.sourcePath.extension?.getD "c"
  let place (tag : String) : Path := directory.join ⟨name c.stem tag extension⟩
  ⟨place "org", place "pp", place "new"⟩

/-- The three paths. -/
def paths (a : Artifacts) : List Path := [a.annotated, a.expanded, a.merged]

/-- The tree after one path has been cleared, as far as it leads to something that can be
removed. -/
def clearPath (fs : FileSystem) (path : Path) : FileTree :=
  if fs.holds path then
    match fs.remove path with
    | .ok tree => tree
    | .error _ => fs.tree
  else fs.tree

/-- The tree after the three paths have been cleared. -/
def clear (a : Artifacts) (fs : FileSystem) : FileTree :=
  a.paths.foldl (fun tree path => clearPath { fs with tree := tree } path) fs.tree

end Artifacts

end CallbackWeave

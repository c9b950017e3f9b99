import CallbackWeave.Proofs.FileTree.Turning

/-!
Folded paths in trees without links. Where nothing is a link, going into a directory and turning
back leads to where one came from, so that a name may be taken back with the `..` behind it: a path
that leads anywhere leads there when it is folded. Since each location is spelled by one folded
absolute path, the paths that lead to one entry are those that are the same once they are made
absolute.
-/

namespace CallbackWeave

namespace NormalPath

variable {n : NormalPath} {c : Component} {components : List Component} {start : Location}

end NormalPath

namespace FileTree

variable {t : FileTree} {links : Nat} {start : Location} {found : Location × Nat}

section Folding

variable {n : NormalPath} {c : Component} {components : List Component}

end Folding

end FileTree

namespace FileSystem

variable {fs : FileSystem} {p q : Path}

end FileSystem

namespace FileSystem

variable {fs : FileSystem} {p q : Path}

section Absolute

variable (hHome : ∀ s ∈ fs.workingDirectory, EntryName s)

include hHome

end Absolute

end FileSystem

end CallbackWeave

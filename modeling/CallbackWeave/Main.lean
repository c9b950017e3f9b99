import CallbackWeave.CommandLine.Run
import CallbackWeave.Surroundings

/-!
The program. It loads the files below its working directory into a tree, runs the command line on
that tree, and carries out on the files what the run has changed. All decisions are those of
`CommandLine.run`; this module only reads and writes.
-/

namespace CallbackWeave.Main

/-- The names of a path from the root down. -/
def locationOf (path : String) : Location := (path.splitOn "/").filter (!·.isEmpty)

/-- The entries at and below a directory entry, which stands at the given location. A file counts
as executable if it names the program that reads it, and a link stands for the place it leads
to. -/
partial def load (place : Location) (found : IO.FS.DirEntry) : IO (List (Location × Entry)) := do
  match (← found.path.symlinkMetadata).type with
  | .dir =>
    let below ← (← found.path.readDir).toList.mapM fun inner =>
      load (place ++ [inner.fileName]) inner
    return (place, .directory) :: below.flatten
  | .symlink => return [(place, .link ⟨(← IO.FS.realPath found.path).toString⟩)]
  | _ =>
    let content := (← IO.FS.readBinFile found.path).toList
    return [(place, .file content ("#!".toUTF8.toList.isPrefixOf content))]

/-- Carries out on the files that an entry has gone. -/
def remove (path : String) : Entry → IO Unit
  | .directory => IO.FS.removeDir path
  | _ => IO.FS.removeFile path

/-- Carries out on the files that an entry has come about or changed. -/
def store (path : String) : Entry → IO Unit
  | .directory => IO.FS.createDirAll path
  | .file content _ => IO.FS.writeBinFile path ⟨content.toArray⟩
  | .link _ => pure ()

/-- Carries out on the files how the second tree differs from the first below a location: what is
gone from the leaves up, and what has come about or changed from the root down. -/
def carryOut (place : Location) (before after : FileTree) : IO Unit := do
  let pathOf (names : Location) : String := "/" ++ "/".intercalate (place ++ names)
  let upwards (tree : FileTree) : List (Location × Entry) :=
    (tree.below place).mergeSort fun a b => b.1.length ≤ a.1.length
  for (names, entry) in upwards before do
    if (after.get? (place ++ names)).isNone then remove (pathOf names) entry
  for (names, entry) in (upwards after).reverse do
    if before.get? (place ++ names) ≠ some entry then store (pathOf names) entry

/-- Runs the command line on the files and gives the code with which the program ends. -/
def run (arguments : List String) : IO UInt32 := do
  let directory ← IO.currentDir
  let place := locationOf directory.toString
  let entries ← load place ⟨directory, ""⟩
  let tree := (⟨entries ++ (Surroundings.tree place).entries⟩ : FileTree).withAncestors place
  let answer := CommandLine.run Starter.standard ⟨Surroundings.site place, tree⟩ arguments
  carryOut place tree answer.tree
  (← IO.getStdout).write ⟨answer.output.toArray⟩
  (← IO.getStderr).putStr answer.errors
  return answer.code.toUInt32

end CallbackWeave.Main

/-- Runs the program. -/
def main (arguments : List String) : IO UInt32 := CallbackWeave.Main.run arguments

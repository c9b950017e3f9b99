import CallbackWeave.Starter

/-!
Where preprocessed text comes from: the output of a command, or a file.
-/

namespace CallbackWeave

/-- A source of preprocessed text. -/
inductive FilterInput where
  /-- The output of a command, given by its tokens. -/
  | command (tokens : List String)
  | file (path : Path)
deriving DecidableEq, Repr

namespace FilterInput

/-- The output of a command and the tree that it leaves. A command that ends without success gives
no output. -/
def readCommand (starter : Starter) (fs : FileSystem) :
    List String → Except Failure Bytes × FileTree
  | [] => (.error (.settings .noCommand), fs.tree)
  | program :: arguments =>
    match starter fs ⟨program⟩ arguments none with
    | .error cause => (.error (.spawn ⟨program⟩ cause), fs.tree)
    | .ok ended =>
      if ended.status.isSuccess then (.ok ended.output, ended.tree)
      else (.error (.subprocess .filterInput ⟨program⟩ ended.status.code), ended.tree)

/-- Reads preprocessed text, as it is. -/
def read (starter : Starter) (fs : FileSystem) : FilterInput → Except Failure Bytes × FileTree
  | command tokens => readCommand starter fs tokens
  | file path =>
    match fs.read path with
    | .ok bytes => (.ok bytes, fs.tree)
    | .error cause => (.error (.pathIo path cause), fs.tree)

end FilterInput

end CallbackWeave

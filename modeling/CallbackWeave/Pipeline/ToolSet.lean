import CallbackWeave.Failure
import CallbackWeave.FileTree.FileSystem
import CallbackWeave.Settings

/-!
The three tools of the pipeline.
-/

namespace CallbackWeave

/-- Where the tools are. -/
structure ToolSet where
  annotate : Path
  merge : Path
  instrument : Path
deriving DecidableEq, Repr

namespace ToolSet

/-- The tools of a directory, whether they exist or not. -/
def within (directory : Path) (settings : PipelineSettings) : ToolSet where
  annotate := directory.join ⟨settings.annotateTool⟩
  merge := directory.join ⟨settings.mergeTool⟩
  instrument := directory.join ⟨settings.instrumentTool⟩

/-- Finds one tool. -/
def find (fs : FileSystem) (directory : Path) (tool : String) : Except Failure Path :=
  if fs.isFile (directory.join ⟨tool⟩) then .ok (directory.join ⟨tool⟩)
  else .error (.toolNotFound tool directory)

/-- Finds the tools in a directory; the first one that is missing is reported. -/
def locate (fs : FileSystem) (directory : Path) (settings : PipelineSettings) :
    Except Failure ToolSet := do
  let directory := fs.absolutize directory
  let annotate ← find fs directory settings.annotateTool
  let merge ← find fs directory settings.mergeTool
  let instrument ← find fs directory settings.instrumentTool
  return ⟨annotate, merge, instrument⟩

end ToolSet

end CallbackWeave

import CallbackWeave.CommandView
import CallbackWeave.ListFile
import CallbackWeave.Pipeline.Artifacts
import CallbackWeave.Pipeline.ToolSet
import CallbackWeave.Pipeline.World

/-!
The way of one unit through the pipeline. Its source is annotated; if that gave anything, the
annotated text is expanded and merged with its expansion, and otherwise the source is copied; the
outcome is instrumented into the source. The temporary files of the unit are cleared before the
first call and on every way out.
-/

namespace CallbackWeave

/-- All that the work on units depends on and does not change. -/
structure Pipeline (σ : Type) where
  tools : ToolSet
  callbacks : CallbackList
  allowlist : Allowlist
  settings : PipelineSettings
  runner : Runner σ
  /-- From where the pipeline itself sees a tree. -/
  site : Site
  /-- Whether events are recorded. -/
  announces : Bool

/-- One unit of a run, with its number and the number of units. -/
structure Job where
  current : Nat
  total : Nat
  command : CompileCommand
deriving DecidableEq, Repr

namespace Pipeline

variable {σ : Type}

/-- A tree as the pipeline sees it. -/
def files (p : Pipeline σ) (tree : FileTree) : FileSystem := ⟨p.site, tree⟩

/-- Records that a unit enters a stage. -/
def announce (p : Pipeline σ) (job : Job) (stage : Stage) : Action σ Unit :=
  if p.announces then .emit ⟨stage, job.current, job.total, job.command.sourcePath⟩
  else .pure ()

/-- Calls a program for a unit; if it ends without success, the unit fails. -/
def invoke (p : Pipeline σ) (job : Job) (invocation : Invocation) : Action σ Unit := do
  let status ← Action.call p.runner invocation
  if status.isSuccess then .pure ()
  else .fail (.subprocess invocation.stage job.command.sourcePath status.code)

/-- The call that annotates a unit. -/
def annotateCall (p : Pipeline σ) (c : CompileCommand) (view : CommandView) : Invocation where
  stage := .annotate
  program := p.tools.annotate
  arguments :=
    ["-o", (Artifacts.ofCommand c).annotated.text, c.sourcePath.text, "--"] ++ view.noOutput.drop 1
  directory := c.directory

/-- The call that expands the annotated source of a unit. `rest` is what its command has beyond
the program, output, compilation and source. -/
def expandCall (p : Pipeline σ) (c : CompileCommand) (view : CommandView) (rest : List String) :
    Invocation where
  stage := .expand
  program := ⟨view.program⟩
  arguments := p.settings.preprocessFlags
    ++ [(Artifacts.ofCommand c).annotated.text, "-o", (Artifacts.ofCommand c).expanded.text] ++ rest
  directory := c.directory

/-- The call that merges the annotated source of a unit with its expansion. -/
def mergeCall (p : Pipeline σ) (c : CompileCommand) : Invocation where
  stage := .merge
  program := p.tools.merge
  arguments := (Artifacts.ofCommand c).paths.map Path.text
  directory := c.directory

/-- The call that instruments a unit. -/
def instrumentCall (p : Pipeline σ) (c : CompileCommand) (view : CommandView) : Invocation where
  stage := .instrument
  program := p.tools.instrument
  arguments :=
    ["-c", p.callbacks.path.text, "-o", c.sourcePath.text, (Artifacts.ofCommand c).merged.text,
      "--"] ++ view.noOutput.drop 1
  directory := c.directory

/-- Expands and merges a unit. -/
def expandAndMerge (p : Pipeline σ) (job : Job) (view : CommandView) : Action σ Unit := do
  p.announce job .expand
  let tree ← Action.tree
  let tokens ← Action.ofExcept (view.compilerOnly (p.files tree))
  p.invoke job (p.expandCall job.command view (tokens.drop 1))
  p.announce job .merge
  p.invoke job (p.mergeCall job.command)

/-- Copies the source of a unit to the place of the merged file. -/
def copyThrough (p : Pipeline σ) (job : Job) : Action σ Unit := do
  p.announce job .copyThrough
  let source := job.command.sourcePath
  let tree ← Action.tree
  match (p.files tree).copy source (Artifacts.ofCommand job.command).merged with
  | .ok tree => .change fun _ => tree
  | .error cause => .fail (.pathIo source cause)

/-- Makes the merged file of a unit: out of its expansion if it has been annotated, and by a copy of
its source otherwise. -/
def provideMerged (p : Pipeline σ) (job : Job) (view : CommandView) (annotated : Bool) :
    Action σ Unit :=
  if annotated then p.expandAndMerge job view else p.copyThrough job

/-- Clears the temporary files of a unit. -/
def clear (p : Pipeline σ) (c : CompileCommand) (tree : FileTree) : FileTree :=
  (Artifacts.ofCommand c).clear (p.files tree)

/-- Instruments a unit and clears its temporary files. -/
def conclude (p : Pipeline σ) (job : Job) (view : CommandView) (annotated : Bool) :
    Action σ Outcome := do
  p.announce job .instrument
  p.invoke job (p.instrumentCall job.command view)
  p.announce job .cleanup
  .change (p.clear job.command)
  .pure (.instrumented (!annotated))

/-- The stages of a unit that is not skipped. -/
def stages (p : Pipeline σ) (job : Job) (view : CommandView) : Action σ Outcome := do
  .change (p.clear job.command)
  p.announce job .annotate
  p.invoke job (p.annotateCall job.command view)
  let annotated := (p.files (← Action.tree)).holds (Artifacts.ofCommand job.command).annotated
  p.provideMerged job view annotated
  p.conclude job view annotated

/-- The way of one unit through the pipeline. -/
def process (p : Pipeline σ) (job : Job) : Action σ Outcome :=
  if p.allowlist.admits job.command.sourcePath then do
    let view ← Action.ofExcept (CommandView.ofCommand job.command)
    (p.stages job view).followedBy (p.clear job.command)
  else do
    p.announce job .select
    .pure .skipped

end Pipeline

end CallbackWeave

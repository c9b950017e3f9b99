import CallbackWeave.CompileDatabase
import CallbackWeave.Pipeline.Unit

/-!
Runs over whole databases. The units of a database are worked on one after another, and the first
failure ends the run. A batch reads what a run needs from files, in a fixed order, before any unit
is touched.
-/

namespace CallbackWeave

namespace Pipeline

variable {σ : Type}

/-- Works on units from a number on, and adds them to a report. -/
def runFrom (p : Pipeline σ) (total : Nat) (report : Report) (current : Nat) :
    List CompileCommand → Action σ Report
  | [] => .pure report
  | command :: rest => do
    let outcome ← p.process ⟨current, total, command⟩
    p.runFrom total (report.record outcome) (current + 1) rest

/-- Works on all units of a database. -/
def run (p : Pipeline σ) (database : CompileDatabase) : Action σ Report :=
  let total := database.commands.length
  p.runFrom total (.initial total) 1 database.commands

end Pipeline

/-- The files that a batch is read from. -/
structure BatchRequest where
  /-- The directory of the tools. -/
  toolDirectory : Path
  /-- The list of callbacks. -/
  callbacks : Path
  /-- The database of compile commands. -/
  compileCommands : Path
  /-- The list of the source files to which the run is restricted. -/
  files : Option Path
deriving DecidableEq, Repr

namespace BatchRequest

/-- Reads what a run needs: the tools, the database, the callbacks and the restriction. -/
def prepare {σ : Type} (request : BatchRequest) (settings : PipelineSettings) (runner : Runner σ)
    (announces : Bool) (fs : FileSystem) : Except Failure (Pipeline σ × CompileDatabase) := do
  let tools ← ToolSet.locate fs request.toolDirectory settings
  let database ← CompileDatabase.load fs request.compileCommands
  let callbacks ← CallbackList.load fs request.callbacks
  let allowlist ← match request.files with
    | some path => Allowlist.load fs path
    | none => .ok .empty
  return (⟨tools, callbacks, allowlist, settings, runner, fs.toSite, announces⟩, database)

/-- Reads what a run needs, and runs. -/
def execute {σ : Type} (request : BatchRequest) (settings : PipelineSettings) (runner : Runner σ)
    (announces : Bool) (site : Site) : Action σ Report := do
  let tree ← Action.tree
  let (pipeline, database) ←
    Action.ofExcept (request.prepare settings runner announces ⟨site, tree⟩)
  pipeline.run database

end BatchRequest

end CallbackWeave

import CallbackWeave.Path.Basic
import CallbackWeave.Stage

/-!
What a run tells about itself: an event as each unit enters a stage, and a report at its end.
-/

namespace CallbackWeave

/-- A unit enters a stage. -/
structure Event where
  stage : Stage
  /-- The number of the unit, from one. -/
  current : Nat
  total : Nat
  source : Path
deriving DecidableEq, Repr

/-- What is told of a stage. -/
def Stage.announcement : Stage → String
  | select => "skipped"
  | annotate => "annotating"
  | expand => "expanding"
  | merge => "merging"
  | copyThrough => "copying through"
  | instrument => "instrumenting"
  | cleanup => "cleaning up"
  | filterInput => "reading"

/-- What is told of an event. -/
def Event.message (e : Event) : String := e.stage.announcement

/-- What became of a unit. -/
inductive Outcome where
  /-- It went through all stages; `copiedThrough` says that there was nothing to annotate. -/
  | instrumented (copiedThrough : Bool)
  /-- The run is restricted to other units. -/
  | skipped
deriving DecidableEq, Repr

/-- The summary of a run. -/
structure Report where
  total : Nat
  instrumented : Nat
  copiedThrough : Nat
  skipped : Nat
deriving DecidableEq, Repr

namespace Report

/-- The report before the first of a number of units. -/
def initial (total : Nat) : Report := ⟨total, 0, 0, 0⟩

/-- The report after one unit more. -/
def record (r : Report) : Outcome → Report
  | .instrumented true =>
    { r with instrumented := r.instrumented + 1, copiedThrough := r.copiedThrough + 1 }
  | .instrumented false => { r with instrumented := r.instrumented + 1 }
  | .skipped => { r with skipped := r.skipped + 1 }

/-- The text of a report. -/
def text (r : Report) : String :=
  toString r.total ++ " units: " ++ toString r.instrumented ++ " instrumented ("
    ++ toString r.copiedThrough ++ " copied through), " ++ toString r.skipped ++ " skipped"

end Report

end CallbackWeave

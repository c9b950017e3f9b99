/-!
The stages of a unit's way through the pipeline, and the stage in which text for the filter is
produced.
-/

namespace CallbackWeave

/-- A stage of the work on one unit. -/
inductive Stage where
  | select
  | annotate
  | expand
  | merge
  | copyThrough
  | instrument
  | cleanup
  /-- The production of preprocessed text for the filter. -/
  | filterInput
deriving DecidableEq, Repr

/-- The name of a stage in messages. -/
def Stage.text : Stage → String
  | select => "select"
  | annotate => "annotate"
  | expand => "expand"
  | merge => "merge"
  | copyThrough => "copy-through"
  | instrument => "instrument"
  | cleanup => "cleanup"
  | filterInput => "filter-input"

end CallbackWeave

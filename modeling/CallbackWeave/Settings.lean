/-!
Settings of the pipeline and of the filter, and the values that hold where nothing else is said.
-/

namespace CallbackWeave

/-- The names of the tools, and the options that make a compiler preprocess only. -/
structure PipelineSettings where
  annotateTool : String
  mergeTool : String
  instrumentTool : String
  preprocessFlags : List String
deriving DecidableEq, Repr

namespace PipelineSettings

/-- The settings that hold where nothing else is said. -/
def standard : PipelineSettings where
  annotateTool := "hookpass-annotate"
  mergeTool := "hookpass-merge"
  instrumentTool := "hookpass-instrument"
  preprocessFlags := ["-E", "-P", "-C"]

end PipelineSettings

/-- What the filter takes for project content. -/
structure FilterSettings where
  /-- The extensions, with their point, of files that are project content in any case. -/
  sourceExtensions : List String
  /-- The names of headers for which no include line is written. -/
  pseudoHeaders : List String
  /-- Whether the text of project headers is kept. -/
  expandHeaders : Bool
deriving DecidableEq, Repr

namespace FilterSettings

/-- The settings that hold where nothing else is said. -/
def standard : FilterSettings where
  sourceExtensions := [".c", ".cc", ".cxx", ".cpp", ".m", ".mm"]
  pseudoHeaders := ["stdc-predef.h"]
  expandHeaders := false

end FilterSettings

/-- All settings. -/
structure Settings where
  pipeline : PipelineSettings
  filter : FilterSettings
deriving DecidableEq, Repr

namespace Settings

/-- The settings that hold where nothing else is said. -/
def standard : Settings := ⟨.standard, .standard⟩

end Settings

end CallbackWeave

import CallbackWeave.Pipeline.Unit

/-!
The files on which the tools work. A call hands them to its program by the places of its arguments,
so that what a tool is promised to do can be said for every call, whoever makes it.
-/

namespace CallbackWeave

/-- The places of the arguments of a call that name the files its program reads, and of the one that
names the file it writes. -/
structure FileArguments where
  read : List Nat
  written : Nat

namespace PipelineSettings

/-- Where the files stand among the arguments of a call. Some stages call no program. -/
def fileArguments (s : PipelineSettings) : Stage → Option FileArguments
  | .annotate => some ⟨[2], 1⟩
  | .expand => some ⟨[s.preprocessFlags.length], s.preprocessFlags.length + 2⟩
  | .merge => some ⟨[0, 1], 2⟩
  | .instrument => some ⟨[4], 3⟩
  | _ => none

/-- The files that the program of a call reads. -/
def inputs? (s : PipelineSettings) (i : Invocation) : Option (List Path) := do
  let places ← s.fileArguments i.stage
  places.read.mapM fun place => i.arguments[place]?.map Path.mk

/-- The file that the program of a call writes. -/
def output? (s : PipelineSettings) (i : Invocation) : Option Path := do
  let places ← s.fileArguments i.stage
  i.arguments[places.written]?.map Path.mk

end PipelineSettings

namespace Pipeline

variable {σ : Type} (p : Pipeline σ) (c : CompileCommand) (view : CommandView) (rest : List String)

/-- The annotating tool reads the source and writes the annotated file. -/
theorem files_annotateCall :
    p.settings.inputs? (p.annotateCall c view) = some [c.sourcePath] ∧
      p.settings.output? (p.annotateCall c view) = some (Artifacts.ofCommand c).annotated := by
  simp [PipelineSettings.inputs?, PipelineSettings.output?, PipelineSettings.fileArguments,
    annotateCall]

/-- The preprocessor reads the annotated file in place of the source and writes the expanded one,
whatever flags it is given and whatever is left of the command. -/
theorem files_expandCall :
    p.settings.inputs? (p.expandCall c view rest) = some [(Artifacts.ofCommand c).annotated] ∧
      p.settings.output? (p.expandCall c view rest) = some (Artifacts.ofCommand c).expanded := by
  simp [PipelineSettings.inputs?, PipelineSettings.output?, PipelineSettings.fileArguments,
    expandCall]

/-- The merging tool reads the annotated and the expanded file and writes the merged one. -/
theorem files_mergeCall :
    p.settings.inputs? (p.mergeCall c) =
        some [(Artifacts.ofCommand c).annotated, (Artifacts.ofCommand c).expanded] ∧
      p.settings.output? (p.mergeCall c) = some (Artifacts.ofCommand c).merged := by
  simp [PipelineSettings.inputs?, PipelineSettings.output?, PipelineSettings.fileArguments,
    mergeCall, Artifacts.paths]

/-- The instrumenting tool reads the merged file and writes the source. -/
theorem files_instrumentCall :
    p.settings.inputs? (p.instrumentCall c view) = some [(Artifacts.ofCommand c).merged] ∧
      p.settings.output? (p.instrumentCall c view) = some c.sourcePath := by
  simp [PipelineSettings.inputs?, PipelineSettings.output?, PipelineSettings.fileArguments,
    instrumentCall]

end Pipeline

/-- The site of the pipeline below. -/
def Site.sample : Site := ⟨["work"], []⟩

/-- A pipeline whose calls are run in some way, for cases of general statements. -/
def Pipeline.sample {σ : Type} (runner : Runner σ) : Pipeline σ where
  tools := ⟨⟨"/opt/annotate"⟩, ⟨"/opt/merge"⟩, ⟨"/opt/instrument"⟩⟩
  callbacks := ⟨⟨"/work/callbacks.txt"⟩, []⟩
  allowlist := .empty
  settings := .standard
  runner := runner
  site := .sample
  announces := true

/-- A runner under which every call fails and changes nothing. -/
def Pipeline.refusing : Runner Unit := fun state _ tree => (.ok ⟨some 1⟩, state, tree)

/-- The unit of a project that has only one source. -/
def Job.sample (sourceName : String) : Job :=
  ⟨1, 1, ⟨⟨"/work"⟩, ⟨sourceName⟩, none, some ["cc", "-c", sourceName]⟩⟩

/-- The tree of that project. -/
def FileTree.sample (sourceName : String) : FileTree :=
  ⟨[(["work"], .directory), (["work", sourceName], .file [0x41] false)]⟩

/-- The command of that project, taken apart. -/
def CommandView.sample (sourceName : String) : CommandView :=
  ⟨(Job.sample sourceName).command, "cc", Argument.group ["-c", sourceName]⟩

/-- The unit of a project whose only source stands in a directory below, by which it was
recorded. -/
def Job.nested : Job :=
  ⟨1, 1, ⟨⟨"sub"⟩, ⟨"a.c"⟩, none, some ["cc", "-c", "a.c"]⟩⟩

/-- The tree of that project. -/
def FileTree.nested : FileTree :=
  ⟨[(["work"], .directory), (["work", "sub"], .directory),
    (["work", "sub", "a.c"], .file [0x41] false)]⟩

/-- The command of that project, taken apart. -/
def CommandView.nested : CommandView :=
  ⟨Job.nested.command, "cc", Argument.group ["-c", "a.c"]⟩

theorem CommandView.ofCommand_sample (sourceName : String) :
    ofCommand (Job.sample sourceName).command = .ok (sample sourceName) := rfl

theorem Pipeline.admits_sample {σ : Type} (runner : Runner σ) (path : Path) :
    (sample runner).allowlist.admits path = true := rfl

end CallbackWeave

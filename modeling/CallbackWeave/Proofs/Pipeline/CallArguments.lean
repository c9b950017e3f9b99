import CallbackWeave.Proofs.Command.Grouping
import CallbackWeave.Proofs.Pipeline.Invariant
import CallbackWeave.Proofs.Pipeline.Sample

/-!
What the calls of a unit have of its command. The annotating and the instrumenting tool are told all
of it but its output, and the compiler that expands is told what is left without output, compilation
and source. The tokens are put together with others and are read again by the program; no argument
changes its role by that, so that no program takes a recorded output for its own.
-/

namespace CallbackWeave

/-- The arguments with which a command was recorded. -/
def CompileCommand.recorded (c : CompileCommand) : List Argument :=
  Argument.group ((c.tokens?.getD []).drop 1)

/-- The preprocessor is given no output, it is not told to compile, and no option waits for the
token that follows. -/
structure PipelineSettings.Restrained (s : PipelineSettings) : Prop where
  noOutput : ∀ a ∈ Argument.group s.preprocessFlags, a.isOutput = false
  noCompileOnly : .compileOnly ∉ Argument.group s.preprocessFlags
  complete : ∀ a ∈ (Argument.group s.preprocessFlags).getLast?, ¬ a.Lacks

theorem PipelineSettings.restrained_standard : standard.Restrained := by
  have hFlags : Argument.group standard.preprocessFlags =
      [.option "-E" none, .option "-P" none, .option "-C" none] := by decide +kernel
  constructor <;> rw [hFlags]
  case noOutput => decide
  case noCompileOnly => decide
  case complete =>
    intro a hLast
    obtain rfl : .option "-C" none = a := by simpa using hLast
    exact fun hLacks : "-C" ∈ Argument.valueFlags => absurd hLacks (by decide)

theorem Argument.WellFormed.not_lacks {arguments : List Argument} (h : WellFormed arguments)
    (hLast : ∀ a ∈ arguments.getLast?, ¬ a.Lacks) : ∀ a ∈ arguments, ¬ a.Lacks := by
  intro a hMem
  obtain ⟨front, last, rfl⟩ := (List.eq_nil_or_concat' arguments).resolve_left
    (List.ne_nil_of_mem hMem)
  rcases List.mem_append.mp hMem with hFront | hEnd
  · exact (List.pairwise_append.mp h.complete).2.2 a hFront last (List.mem_singleton_self _)
  · exact hLast a (by simp [List.mem_singleton.mp hEnd])

namespace CommandView

variable {c : CompileCommand} {view : CommandView} {fs : FileSystem} {tokens : List String}

theorem arguments_of_ofCommand (hView : ofCommand c = .ok view) : view.arguments = c.recorded := by
  unfold ofCommand at hView
  split at hView
  next => cases hView
  next => cases hView
  next program rest hTokens =>
    obtain rfl := Except.ok.inj hView
    simp [CompileCommand.recorded, hTokens]

/-- What is left for the preprocessor if exactly one argument names the source. -/
theorem exists_split_of_compilerOnly (hTokens : view.compilerOnly fs = .ok tokens) :
    ∃ before source after, view.arguments = before ++ .positional source :: after ∧
      view.namesSource fs (.positional source) = true ∧
      (∀ a ∈ before ++ after, view.namesSource fs a = false) ∧
      tokens.drop 1 = ((before ++ after).filter fun a =>
        !a.isOutput && a ≠ .compileOnly).flatMap Argument.tokens := by
  unfold compilerOnly at hTokens
  split at hTokens
  next hOne =>
    obtain rfl := Except.ok.inj hTokens
    obtain ⟨named, hNamed⟩ := List.length_eq_one_iff.mp hOne
    obtain ⟨before, after, hSplit, hBefore, hSource, hAfter⟩ := List.filter_eq_cons_iff.mp hNamed
    have hOthers : ∀ a ∈ before ++ after, view.namesSource fs a = false := by
      intro a hMem
      rcases List.mem_append.mp hMem with hMem | hMem
      · exact Bool.eq_false_iff.mpr (hBefore a hMem)
      · exact Bool.eq_false_iff.mpr (List.filter_eq_nil_iff.mp hAfter a hMem)
    have hKept : view.arguments.filter (view.forPreprocessor fs) =
        (before ++ after).filter fun a => !a.isOutput && a ≠ .compileOnly := by
      have hSame : ∀ a ∈ before ++ after,
          view.forPreprocessor fs a = (!a.isOutput && a ≠ .compileOnly) := by
        intro a hMem
        simp [forPreprocessor, hOthers a hMem]
      rw [hSplit, List.filter_append, List.filter_cons_of_neg (by simp [forPreprocessor, hSource]),
        ← List.filter_append, List.filter_congr hSame]
    cases named with
    | positional source =>
        exact ⟨before, source, after, hSplit, hSource, hOthers, by rw [← hKept]; rfl⟩
    | _ => cases hSource
  next => cases hTokens

end CommandView

namespace Artifacts

theorem isOption_of_isAbsolute {path : Path} (hAbsolute : path.isAbsolute = true) :
    Argument.isOption path.text = false := by
  unfold Path.isAbsolute at hAbsolute
  unfold Argument.isOption
  cases hText : path.text.toList with
  | nil => rfl
  | cons first rest =>
      obtain rfl : first = '/' := by simpa [hText] using hAbsolute
      rfl

/-- A source that has no name gives its temporary files names that begin with the mark. -/
theorem isOption_of_parent? {c : CompileCommand} (hParent : c.sourcePath.parent? = none)
    (tag : String) : Argument.isOption (beside c tag).text = false := by
  have hNone : c.file.fileName? = none := by
    by_contra hSome
    obtain ⟨sourceName, hName⟩ := Option.ne_none_iff_exists'.mp hSome
    have hSource := UnitFile.fileName?_sourcePath hName
    unfold Path.fileName? at hSource
    unfold Path.parent? at hParent
    split at hSource
    next hLast => simp [hLast] at hParent
    next => cases hSource
  have hStem : c.stem = "" := by simp [CompileCommand.stem, Path.stem?, hNone]
  have hFirst : (fileName c tag).toList.head? = some '_' := by
    simp [toList_fileName, hStem]
  have hRelative : (⟨fileName c tag⟩ : Path).isAbsolute = false := by
    simp [Path.isAbsolute, hFirst]
  have hText : (beside c tag).text = fileName c tag := by
    unfold beside
    rw [hParent, Option.getD_none, Path.join, if_neg (by simp [hRelative])]
    simp
  unfold Argument.isOption
  rw [hText]
  cases hChars : (fileName c tag).toList with
  | nil => rfl
  | cons first rest =>
      obtain rfl : first = '_' := by simpa [hChars] using hFirst
      rfl

/-- No program takes the path of a temporary file for an option. -/
theorem isOption_annotated {c : CompileCommand} (hAbsolute : c.sourcePath.isAbsolute = true) :
    Argument.isOption (ofCommand c).annotated.text = false := by
  cases hParent : c.sourcePath.parent? with
  | none =>
      rw [ofCommand_eq]
      exact isOption_of_parent? hParent "org"
  | some parent =>
      have hAnchored : c.Anchored := ⟨c.isAbsolute_sourcePath.mp hAbsolute, by simp [hParent]⟩
      exact isOption_of_isAbsolute (isAbsolute_of_anchored hAnchored (by simp [paths]))

end Artifacts

namespace Pipeline

variable {σ : Type}

/-- However a unit ends, each call has been issued in the tree that it has found. -/
theorem exists_issues_of_mem_records (p : Pipeline σ) (job : Job) (tree : FileTree) (state : σ) :
    ∀ call ∈ Happening.records (p.process job ⟨tree, state, []⟩).2.trace,
      ∃ view, CommandView.ofCommand job.command = .ok view ∧
        p.Issues job.command view call.found call.invocation := by
  have hEvent : ∀ (w : World σ) event, (∀ call ∈ Happening.records w.trace,
      ∃ view, CommandView.ofCommand job.command = .ok view ∧
        p.Issues job.command view call.found call.invocation) →
      ∀ call ∈ Happening.records (w.trace ++ [.event event]),
        ∃ view, CommandView.ofCommand job.command = .ok view ∧
          p.Issues job.command view call.found call.invocation := by
    intro w event hStart
    rwa [Happening.records_append_event]
  refine keeps_process hEvent (fun _ => ?_) ⟨tree, state, []⟩ (by simp [Happening.records])
  refine ⟨hEvent, fun _ hStart => hStart, fun _ _ hStart _ => hStart, ?_⟩
  intro w view i hView hIssued hStart call hCall
  rw [Happening.records_append_call] at hCall
  rcases List.mem_append.mp hCall with hOld | hNew
  · exact hStart call hOld
  · obtain rfl := List.mem_singleton.mp hNew
    exact ⟨view, hView, hIssued⟩

/-- What the preprocessor is told is read as its flags, the annotated file, the output for the
expansion, and what is left of the command. -/
theorem group_expandCall (p : Pipeline σ) {c : CompileCommand} (view : CommandView)
    (hAbsolute : c.sourcePath.isAbsolute = true) (hFlags : p.settings.Restrained)
    {rest : List String} {left : List Argument} (hLeft : Argument.WellFormed left)
    (hRest : rest = left.flatMap Argument.tokens) :
    Argument.group (p.expandCall c view rest).arguments =
      Argument.group p.settings.preprocessFlags ++
        .positional (Artifacts.ofCommand c).annotated.text ::
          .output (some (Artifacts.ofCommand c).expanded.text) :: left := by
  have hFlagsFormed := Argument.wellFormed_group p.settings.preprocessFlags
  have hAnnotated : (Argument.positional (Artifacts.ofCommand c).annotated.text).Classified :=
    Artifacts.isOption_annotated hAbsolute
  have hOwn : Argument.WellFormed (.positional (Artifacts.ofCommand c).annotated.text ::
      .output (some (Artifacts.ofCommand c).expanded.text) :: left) :=
    Argument.WellFormed.cons_iff.mpr ⟨hAnnotated, Or.inr id,
      Argument.WellFormed.cons_iff.mpr ⟨trivial, Or.inr id, hLeft⟩⟩
  rw [← Argument.group_flatMap_tokens
    (hFlagsFormed.append (hFlagsFormed.not_lacks hFlags.complete) hOwn)]
  simp [expandCall, hRest, Argument.flatMap_tokens_group, Argument.tokens]

/-- What an expanding call has, read again: the flags of the preprocessor, the annotated file, the
expanded one as its only output, and what the command has besides output, compilation and the one
argument that names the source in the tree that the call finds. -/
structure ExpandsRest (p : Pipeline σ) (c : CompileCommand) (call : CallRecord) : Prop where
  arguments : ∃ view before source after,
    CommandView.ofCommand c = .ok view ∧ c.recorded = before ++ .positional source :: after ∧
    view.namesSource (p.files call.found) (.positional source) = true ∧
    (∀ a ∈ before ++ after, view.namesSource (p.files call.found) a = false) ∧
    Argument.group call.invocation.arguments = Argument.group p.settings.preprocessFlags ++
      .positional (Artifacts.ofCommand c).annotated.text ::
        .output (some (Artifacts.ofCommand c).expanded.text) ::
          (before ++ after).filter (fun a => !a.isOutput && a ≠ .compileOnly)
  oneOutput : (Argument.group call.invocation.arguments).countP (·.isOutput) = 1
  noCompileOnly : .compileOnly ∉ Argument.group call.invocation.arguments

/-- What any other call has: the files of the unit, and `rest` as all that it has of the command. -/
structure PassesOn (p : Pipeline σ) (c : CompileCommand) (rest : List String) (call : CallRecord) :
    Prop where
  annotate : call.invocation.stage = .annotate → call.invocation.arguments =
    ["-o", (Artifacts.ofCommand c).annotated.text, c.sourcePath.text, "--"] ++ rest
  merge : call.invocation.stage = .merge →
    call.invocation.arguments = (Artifacts.ofCommand c).paths.map Path.text
  instrument : call.invocation.stage = .instrument → call.invocation.arguments =
    ["-c", p.callbacks.path.text, "-o", c.sourcePath.text, (Artifacts.ofCommand c).merged.text,
      "--"] ++ rest

/-- What is left for the preprocessor has the one output that the call adds. -/
theorem expandsRest_of_issued {p : Pipeline σ} {c : CompileCommand} {view : CommandView}
    {tokens : List String} {call : CallRecord} (hAbsolute : c.sourcePath.isAbsolute = true)
    (hFlags : p.settings.Restrained) (hView : CommandView.ofCommand c = .ok view)
    (hCompiler : view.compilerOnly (p.files call.found) = .ok tokens)
    (hCall : call.invocation = p.expandCall c view (tokens.drop 1)) : p.ExpandsRest c call := by
  obtain ⟨before, source, after, hSplit, hSource, hOthers, hTokens⟩ :=
    CommandView.exists_split_of_compilerOnly hCompiler
  rw [CommandView.arguments_of_ofCommand hView] at hSplit
  have hLeft : Argument.WellFormed (before ++ after) :=
    (Argument.wellFormed_group _).sublist
      (show (before ++ after).Sublist c.recorded from
        hSplit ▸ (List.sublist_cons_self _ _).append_left before)
  have hArguments := p.group_expandCall view hAbsolute hFlags (hLeft.filter _) hTokens
  rw [← hCall] at hArguments
  have hFlagOutputs : (Argument.group p.settings.preprocessFlags).countP (·.isOutput) = 0 :=
    List.countP_eq_zero.mpr fun a hMem => by simp [hFlags.noOutput a hMem]
  have hLeftOutputs : ((before ++ after).filter fun a =>
      !a.isOutput && a ≠ .compileOnly).countP (·.isOutput) = 0 := by
    refine List.countP_eq_zero.mpr fun a hMem => ?_
    obtain ⟨hOutput, -⟩ : a.isOutput = false ∧ a ≠ .compileOnly := by
      simpa using (List.mem_filter.mp hMem).2
    simp [hOutput]
  constructor
  case arguments => exact ⟨view, before, source, after, hView, hSplit, hSource, hOthers, hArguments⟩
  case oneOutput =>
    rw [hArguments, List.countP_append, hFlagOutputs,
      List.countP_cons_of_neg Bool.false_ne_true, List.countP_cons_of_pos rfl, hLeftOutputs]
  case noCompileOnly =>
    rw [hArguments]
    simp [hFlags.noCompileOnly]

/-- No call of a unit whose source is an absolute path has the output with which the command was
recorded, whether the preprocessor has the standard flags or others of the kind. The expanding call
has no output but its own and is not told to compile; the annotating and the instrumenting call have
the same of the command, which is read as all of it but the output. -/
theorem calls_omit_recorded_output (p : Pipeline σ) (job : Job) (tree : FileTree) (state : σ)
    (hAbsolute : job.command.sourcePath.isAbsolute = true) (hFlags : p.settings.Restrained) :
    PipelineSettings.standard.Restrained ∧
    (∀ call ∈ Happening.records (p.process job ⟨tree, state, []⟩).2.trace,
      call.invocation.stage = .expand → p.ExpandsRest job.command call) ∧
    ∃ rest, Argument.group rest = job.command.recorded.filter (!·.isOutput) ∧
      ∀ call ∈ Happening.records (p.process job ⟨tree, state, []⟩).2.trace,
        p.PassesOn job.command rest call := by
  have hRecorded : Argument.WellFormed job.command.recorded := Argument.wellFormed_group _
  refine ⟨PipelineSettings.restrained_standard, fun call hCall hStage => ?_,
    (job.command.recorded.filter (!·.isOutput)).flatMap Argument.tokens,
    Argument.group_flatMap_tokens (hRecorded.filter _), fun call hCall => ?_⟩
  · obtain ⟨view, hView, hIssued⟩ := p.exists_issues_of_mem_records job tree state call hCall
    generalize hInvocation : call.invocation = i at hIssued hStage
    cases hIssued with
    | expand hCompiler => exact expandsRest_of_issued hAbsolute hFlags hView hCompiler hInvocation
    | annotate => cases hStage
    | merge => cases hStage
    | instrument => cases hStage
  · obtain ⟨view, hView, hIssued⟩ := p.exists_issues_of_mem_records job tree state call hCall
    have hRest : view.noOutput.drop 1 =
        (job.command.recorded.filter (!·.isOutput)).flatMap Argument.tokens := by
      rw [← CommandView.arguments_of_ofCommand hView]
      rfl
    generalize hInvocation : call.invocation = i at hIssued
    cases hIssued with
    | annotate => constructor <;> simp [hInvocation, annotateCall, hRest]
    | expand hCompiler => constructor <;> simp [hInvocation, expandCall]
    | merge => constructor <;> simp [hInvocation, mergeCall]
    | instrument => constructor <;> simp [hInvocation, instrumentCall, hRest]

end Pipeline

/-- A unit whose command defines a macro with the name of the option for the output. -/
def Job.disguised : Job :=
  ⟨1, 1, ⟨⟨"/work"⟩, ⟨"a.c"⟩, none, some ["cc", "-D", "-o", "-o", "a.o", "-c", "a.c"]⟩⟩

example : Job.disguised.command.recorded =
    [.option "-D" (some "-o"), .output (some "a.o"), .compileOnly, .positional "a.c"] := by
  decide +kernel

namespace Pipeline

/-- The pipeline of the project with tools that always write the same. -/
def writing : Pipeline Unit := sample (obedient .standard .sample fun _ _ => some [0x43])

theorem calls_omit_recorded_output_writing :
    Job.disguised.command.sourcePath.isAbsolute = true ∧ writing.settings.Restrained ∧
    PipelineSettings.standard.Restrained ∧
    (∀ call ∈ Happening.records (writing.process .disguised ⟨.sample "a.c", (), []⟩).2.trace,
      call.invocation.stage = .expand → writing.ExpandsRest Job.disguised.command call) ∧
    ∃ rest, Argument.group rest = Job.disguised.command.recorded.filter (!·.isOutput) ∧
      ∀ call ∈ Happening.records (writing.process .disguised ⟨.sample "a.c", (), []⟩).2.trace,
        writing.PassesOn Job.disguised.command rest call := by
  have hAbsolute : Job.disguised.command.sourcePath.isAbsolute = true := by decide +kernel
  have hFlags : writing.settings.Restrained := PipelineSettings.restrained_standard
  exact ⟨hAbsolute, hFlags,
    calls_omit_recorded_output writing .disguised (.sample "a.c") () hAbsolute hFlags⟩

end Pipeline

end CallbackWeave

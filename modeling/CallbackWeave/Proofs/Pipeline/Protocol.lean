import CallbackWeave.Pipeline.Batch
import CallbackWeave.Proofs.Pipeline.Actions

/-!
The calls of a run. A unit has a word of stages: none if it is not admitted, annotation and
instrumentation if its annotating call leaves no annotated file, and all four stages otherwise. A
run spells the words of its units one after another, each to its end, until the first failure. The
failing unit breaks off in its word, at the call that failed or between two calls.
-/

namespace CallbackWeave

/-- A call with all that a trace tells of it. -/
structure CallRecord where
  invocation : Invocation
  result : Except Failure ExitStatus
  found : FileTree
  left : FileTree

namespace Happening

/-- The calls of a trace with all that it tells of them. -/
def records (trace : List Happening) : List CallRecord :=
  trace.filterMap fun
    | call invocation result found left => some ⟨invocation, result, found, left⟩
    | event _ => none

theorem records_append_event (trace : List Happening) (event : Event) :
    records (trace ++ [.event event]) = records trace := by
  simp [records]

theorem records_append_call (trace : List Happening) (i : Invocation)
    (result : Except Failure ExitStatus) (found left : FileTree) :
    records (trace ++ [.call i result found left]) =
      records trace ++ [⟨i, result, found, left⟩] := by
  simp [records]

theorem calls_append (trace more : List Happening) :
    calls (trace ++ more) = calls trace ++ calls more :=
  List.filterMap_append

theorem events_append (trace more : List Happening) :
    events (trace ++ more) = events trace ++ events more :=
  List.filterMap_append

end Happening

namespace Pipeline

variable {σ : Type}

/-- The stages in which a unit calls a program, where its annotating call leaves a tree. -/
def word (p : Pipeline σ) (c : CompileCommand) (annotated : FileTree) : List Stage :=
  if p.allowlist.admits c.sourcePath then
    if (p.files annotated).holds (Artifacts.ofCommand c).annotated then
      [.annotate, .expand, .merge, .instrument]
    else [.annotate, .instrument]
  else []

/-- The calls that a unit makes once its command is taken apart. -/
inductive Makes (p : Pipeline σ) (c : CompileCommand) (view : CommandView) : Invocation → Prop where
  | annotate : Makes p c view (p.annotateCall c view)
  | expand (rest : List String) : Makes p c view (p.expandCall c view rest)
  | merge : Makes p c view (p.mergeCall c)
  | instrument : Makes p c view (p.instrumentCall c view)

theorem Makes.directory_eq {p : Pipeline σ} {c : CompileCommand} {view : CommandView}
    {i : Invocation} (h : p.Makes c view i) : i.directory = c.directory := by
  cases h <;> rfl

/-- Calls that a unit makes from the directory of its command, one for each of some stages. The
first of them, which annotates, leaves a given tree. -/
structure Spells (p : Pipeline σ) (c : CompileCommand) (annotated : FileTree)
    (stages : List Stage) (calls : List CallRecord) : Prop where
  stages : calls.map (·.invocation.stage) = stages
  directory : ∀ call ∈ calls, call.invocation.directory = c.directory
  made : ∀ call ∈ calls, ∃ view, CommandView.ofCommand c = .ok view ∧ p.Makes c view call.invocation
  left : ∀ call, calls.head? = some call → call.left = annotated

/-- The calls of a unit that succeeds or is skipped: they spell its word to the end, and each of
them exits with code 0. -/
def Completes (p : Pipeline σ) (c : CompileCommand) (calls : List CallRecord) : Prop :=
  ∃ annotated, p.Spells c annotated (p.word c annotated) calls ∧
    ∀ call ∈ calls, call.result = .ok ⟨some 0⟩

/-- What a unit fails with after some calls. -/
inductive Blames (p : Pipeline σ) (c : CompileCommand) (annotated : FileTree) :
    List CallRecord → Failure → Prop where
  /-- The last call exits with another code than 0, or a signal ends it. -/
  | exit {earlier : List CallRecord} {last : CallRecord} {status : ExitStatus}
      (result : last.result = .ok status) (code : status.code ≠ some 0) :
      Blames p c annotated (earlier ++ [last])
        (.subprocess last.invocation.stage c.sourcePath status.code)
  /-- The program of the last call cannot be run. -/
  | runner {earlier : List CallRecord} {last : CallRecord} {failure : Failure}
      (result : last.result = .error failure) : Blames p c annotated (earlier ++ [last]) failure
  /-- Nothing is called, since the command has no usable tokens. -/
  | tokens {fault : CommandFault} (fault_eq : CompileDatabase.commandFault? c = some fault) :
      Blames p c annotated [] (.malformedDatabase c.file (.command fault))
  /-- There is an annotated file, but not exactly one token that names the source. -/
  | source {first : CallRecord} {view : CommandView} (result : first.result = .ok ⟨some 0⟩)
      (exists_annotated : (p.files annotated).holds (Artifacts.ofCommand c).annotated = true)
      (view_eq : CommandView.ofCommand c = .ok view)
      (several : view.candidates (p.files annotated) ≠ 1) :
      Blames p c annotated [first]
        (.unmatchedSource c.sourcePath (view.candidates (p.files annotated)))
  /-- There is no annotated file, and the source cannot be copied. -/
  | copy {first : CallRecord} {cause : IoError} (result : first.result = .ok ⟨some 0⟩)
      (no_annotated : (p.files annotated).holds (Artifacts.ofCommand c).annotated = false)
      (refused : (p.files annotated).copy c.sourcePath (Artifacts.ofCommand c).merged =
        .error cause) :
      Blames p c annotated [first] (.pathIo c.sourcePath cause)

/-- The calls of a unit that fails: they spell a beginning of its word, and all but the last of them
exit with code 0. -/
def Breaks (p : Pipeline σ) (c : CompileCommand) (calls : List CallRecord) (failure : Failure) :
    Prop :=
  p.allowlist.admits c.sourcePath = true ∧
    ∃ annotated stages, stages <+: p.word c annotated ∧ p.Spells c annotated stages calls ∧
      (∀ call ∈ calls.dropLast, call.result = .ok ⟨some 0⟩) ∧ p.Blames c annotated calls failure

/-- The calls of a run over some commands, and what it ends with. -/
inductive Follows (p : Pipeline σ) :
    List CompileCommand → List CallRecord → Except Failure Report → Prop where
  | finished (report : Report) : Follows p [] [] (.ok report)
  | next {c : CompileCommand} {rest : List CompileCommand} {calls more : List CallRecord}
      {result : Except Failure Report} (complete : p.Completes c calls)
      (run : Follows p rest more result) : Follows p (c :: rest) (calls ++ more) result
  | stopped {c : CompileCommand} {rest : List CompileCommand} {calls : List CallRecord}
      {failure : Failure} (broken : p.Breaks c calls failure) :
      Follows p (c :: rest) calls (.error failure)

/-- A call comes to one of three ends for its unit. -/
theorem verdict_cases (job : Job) (i : Invocation) (result : Except Failure ExitStatus) :
    result = .ok ⟨some 0⟩ ∧ verdict job i result = .ok () ∨
      (∃ status, result = .ok status ∧ status.code ≠ some 0 ∧
        verdict job i result = .error (.subprocess i.stage job.command.sourcePath status.code)) ∨
      ∃ failure, result = .error failure ∧ verdict job i result = .error failure := by
  cases result with
  | error failure => exact Or.inr (Or.inr ⟨failure, rfl, rfl⟩)
  | ok status =>
      obtain ⟨code⟩ := status
      by_cases hCode : code = some 0
      · subst hCode
        exact Or.inl ⟨rfl, rfl⟩
      · exact Or.inr (Or.inl ⟨_, rfl, hCode, by simp [verdict, ExitStatus.isSuccess, hCode]⟩)

/-- What is recorded of a call that is made in a world. -/
def recordOf (p : Pipeline σ) (i : Invocation) (w : World σ) : CallRecord :=
  ⟨i, (p.runner w.state i w.tree).1, w.tree, (p.runner w.state i w.tree).2.2⟩

theorem invoke_recordOf (p : Pipeline σ) (job : Job) (i : Invocation) (w : World σ) :
    (p.invoke job i w).1 = verdict job i (p.recordOf i w).result ∧
      (p.invoke job i w).2.tree = (p.recordOf i w).left ∧
      Happening.records (p.invoke job i w).2.trace =
        Happening.records w.trace ++ [p.recordOf i w] := by
  rw [invoke_eq]
  exact ⟨rfl, rfl, Happening.records_append_call _ _ _ _ _⟩

section

variable {p : Pipeline σ} {c : CompileCommand} {prior : List CallRecord} {annotated : FileTree}
  {stages : List Stage}

theorem Spells.nil (p : Pipeline σ) (c : CompileCommand) (annotated : FileTree) :
    p.Spells c annotated [] [] :=
  ⟨rfl, by simp, by simp, by simp⟩

theorem Spells.append {calls : List CallRecord} {call : CallRecord} {view : CommandView}
    (h : p.Spells c annotated stages calls) (hView : CommandView.ofCommand c = .ok view)
    (hMade : p.Makes c view call.invocation) (hFirst : calls = [] → call.left = annotated) :
    p.Spells c annotated (stages ++ [call.invocation.stage]) (calls ++ [call]) where
  stages := by rw [List.map_append, h.stages]; rfl
  directory := by
    intro other hMem
    rcases List.mem_append.mp hMem with hOld | hNew
    · exact h.directory other hOld
    · exact List.mem_singleton.mp hNew ▸ hMade.directory_eq
  made := by
    intro other hMem
    rcases List.mem_append.mp hMem with hOld | hNew
    · exact h.made other hOld
    · exact List.mem_singleton.mp hNew ▸ ⟨view, hView, hMade⟩
  left := by
    intro other hHead
    cases calls with
    | nil =>
        obtain rfl : call = other := by simpa using hHead
        exact hFirst rfl
    | cons first rest => exact h.left other (by simpa using hHead)

/-- Beyond what a trace held before, a unit has made one successful call for each of some stages. -/
def Reached (p : Pipeline σ) (c : CompileCommand) (prior : List CallRecord) (annotated : FileTree)
    (stages : List Stage) (w : World σ) : Prop :=
  ∃ calls, Happening.records w.trace = prior ++ calls ∧ p.Spells c annotated stages calls ∧
    ∀ call ∈ calls, call.result = .ok ⟨some 0⟩

/-- A part of a unit ends as it should, or the unit has broken off. -/
def Onward (p : Pipeline σ) (c : CompileCommand) (prior : List CallRecord) {α : Type}
    (good : World σ → Prop) : Except Failure α → World σ → Prop
  | .ok _, w => good w
  | .error failure, w =>
    ∃ calls, Happening.records w.trace = prior ++ calls ∧ p.Breaks c calls failure

theorem Onward.weaken {α : Type} {good other : World σ → Prop} {result : Except Failure α}
    {w : World σ} (h : p.Onward c prior good result w) (hGood : good w → other w) :
    p.Onward c prior other result w := by
  cases result with
  | ok a => exact hGood h
  | error failure => exact h

/-- Once a unit has broken off, nothing of it follows. -/
theorem Onward.bind {α β : Type} {before middle last : World σ → Prop} {first : Action σ α}
    {next : α → Action σ β} (hFirst : Action.Ends before first (p.Onward c prior middle))
    (hNext : ∀ a, Action.Ends middle (next a) (p.Onward c prior last)) :
    Action.Ends before (first >>= next) (p.Onward c prior last) :=
  Action.Ends.bind hFirst hNext fun _ _ hBroken => hBroken

theorem onward_announce (job : Job) (stage : Stage) {good : World σ → Prop}
    (hEvent : ∀ w event, good w → good { w with trace := w.trace ++ [.event event] }) :
    Action.Ends good (p.announce job stage) (p.Onward c prior good) := by
  refine (ends_announce p job stage hEvent).weaken (fun _ h => h) ?_
  rintro result w ⟨rfl, hGood⟩
  exact hGood

/-- What concerns the calls alone outlasts every change of the tree. -/
theorem onward_change {good : World σ → Prop} (f : FileTree → FileTree)
    (hTrace : ∀ w other : World σ, other.trace = w.trace → good w → good other) :
    Action.Ends good (Action.change f) (p.Onward c prior good) :=
  fun w hGood => hTrace w { w with tree := f w.tree } rfl hGood

theorem Reached.of_records {w other : World σ} (h : p.Reached c prior annotated stages w)
    (hRecords : Happening.records other.trace = Happening.records w.trace) :
    p.Reached c prior annotated stages other := by
  obtain ⟨calls, hTrace, hCalls⟩ := h
  exact ⟨calls, hRecords.trans hTrace, hCalls⟩

theorem Reached.event {w : World σ} (h : p.Reached c prior annotated stages w) (event : Event) :
    p.Reached c prior annotated stages { w with trace := w.trace ++ [.event event] } :=
  h.of_records (Happening.records_append_event _ _)

section

variable {job : Job} {view : CommandView}
  (hAdmitted : p.allowlist.admits job.command.sourcePath = true)
  (hView : CommandView.ofCommand job.command = .ok view)

include hAdmitted hView

/-- What a call means for its unit: it is one stage further, or it has broken off. -/
theorem onward_verdict {calls : List CallRecord} {call : CallRecord} {w : World σ}
    (hMade : p.Makes job.command view call.invocation)
    (hFirst : calls = [] → call.left = annotated)
    (hWord : stages ++ [call.invocation.stage] <+: p.word job.command annotated)
    (hSpells : p.Spells job.command annotated stages calls)
    (hSuccess : ∀ other ∈ calls, other.result = .ok ⟨some 0⟩)
    (hTrace : Happening.records w.trace = prior ++ (calls ++ [call])) :
    p.Onward job.command prior
      (p.Reached job.command prior annotated (stages ++ [call.invocation.stage]))
      (verdict job call.invocation call.result) w := by
  have hMore := hSpells.append hView hMade hFirst
  have hBreaks : ∀ {failure}, p.Blames job.command annotated (calls ++ [call]) failure →
      p.Breaks job.command (calls ++ [call]) failure := by
    refine fun hBlames => ⟨hAdmitted, annotated, _, hWord, hMore, ?_, hBlames⟩
    rwa [List.dropLast_concat]
  rcases verdict_cases job call.invocation call.result with
    ⟨hResult, hVerdict⟩ | ⟨status, hResult, hCode, hVerdict⟩ | ⟨failure, hResult, hVerdict⟩ <;>
    rw [hVerdict]
  · refine ⟨_, hTrace, hMore, fun other hMem => ?_⟩
    rcases List.mem_append.mp hMem with hOld | hNew
    · exact hSuccess other hOld
    · rw [List.mem_singleton.mp hNew, hResult]
  · exact ⟨_, hTrace, hBreaks (.exit hResult hCode)⟩
  · exact ⟨_, hTrace, hBreaks (.runner hResult)⟩

variable (prior) in
/-- A call after the first one. -/
theorem onward_invoke {i : Invocation} (hMade : p.Makes job.command view i) (hStages : stages ≠ [])
    (hWord : stages ++ [i.stage] <+: p.word job.command annotated) :
    Action.Ends (p.Reached job.command prior annotated stages) (p.invoke job i)
      (p.Onward job.command prior
        (p.Reached job.command prior annotated (stages ++ [i.stage]))) := by
  rintro w ⟨calls, hTrace, hSpells, hSuccess⟩
  have hCalls : calls ≠ [] := by
    rintro rfl
    exact hStages hSpells.stages.symm
  obtain ⟨hResult, -, hRecord⟩ := p.invoke_recordOf job i w
  rw [hResult]
  refine onward_verdict hAdmitted hView hMade (fun hNone => absurd hNone hCalls) hWord hSpells
    hSuccess ?_
  rw [hRecord, hTrace, List.append_assoc]

omit hView in
theorem annotate_prefix_word (annotated : FileTree) :
    [.annotate] <+: p.word job.command annotated := by
  simp only [word, hAdmitted, if_true]
  split
  · exact ⟨[.expand, .merge, .instrument], rfl⟩
  · exact ⟨[.instrument], rfl⟩

variable (prior) in
/-- The annotating call is the first one of its unit. -/
theorem onward_annotate :
    Action.Ends (fun w => Happening.records w.trace = prior)
      (p.invoke job (p.annotateCall job.command view))
      (p.Onward job.command prior
        fun w => p.Reached job.command prior w.tree [.annotate] w) := by
  intro w hTrace
  obtain ⟨hResult, hTree, hRecord⟩ := p.invoke_recordOf job (p.annotateCall job.command view) w
  rw [hTrace] at hRecord
  have hOnward := onward_verdict hAdmitted hView .annotate (fun _ => hTree.symm)
    (annotate_prefix_word hAdmitted _) (.nil p _ _) (by simp) hRecord
  rw [hResult]
  exact hOnward.weaken fun h => h

/-- An annotated file is expanded and merged, in the tree that the annotating call has left. -/
theorem onward_expandAndMerge
    (hAnnotated : (p.files annotated).holds (Artifacts.ofCommand job.command).annotated = true) :
    Action.Ends (fun w => w.tree = annotated ∧ p.Reached job.command prior annotated [.annotate] w)
      (p.expandAndMerge job view)
      (p.Onward job.command prior
        (p.Reached job.command prior annotated [.annotate, .expand, .merge])) := by
  have hWord : p.word job.command annotated = [.annotate, .expand, .merge, .instrument] := by
    simp only [word, hAdmitted, hAnnotated, if_true]
  refine Onward.bind (onward_announce job .expand fun w event h => ⟨h.1, h.2.event event⟩)
    fun _ => ?_
  refine Action.Ends.tree fun tree => ?_
  have hTokens : Action.Ends
      (fun w => w.tree = tree ∧ w.tree = annotated ∧
        p.Reached job.command prior annotated [.annotate] w)
      (Action.ofExcept (view.compilerOnly (p.files tree)))
      (p.Onward job.command prior (p.Reached job.command prior annotated [.annotate])) := by
    rintro w ⟨rfl, hTree, hReached⟩
    rw [hTree]
    unfold CommandView.compilerOnly
    split
    next => exact hReached
    next hSeveral =>
      obtain ⟨calls, hTrace, hSpells, hSuccess⟩ := hReached
      obtain ⟨first, rfl, -⟩ := List.map_eq_singleton_iff.mp hSpells.stages
      refine ⟨_, hTrace, hAdmitted, annotated, _, annotate_prefix_word hAdmitted annotated, hSpells,
        by simp, ?_⟩
      rw [CommandView.command_of_ofCommand hView]
      exact .source (hSuccess first (by simp)) hAnnotated hView hSeveral
  refine hTokens.bind (fun tokens => ?_) fun _ _ hBroken => hBroken
  refine Onward.bind (onward_invoke prior hAdmitted hView (.expand _) (by simp) ?_) fun _ => ?_
  · rw [hWord]
    exact ⟨[.merge, .instrument], rfl⟩
  refine Onward.bind (onward_announce job .merge fun w event h => h.event event) fun _ => ?_
  refine onward_invoke prior hAdmitted hView .merge (by simp) ?_
  rw [hWord]
  exact ⟨[.instrument], rfl⟩

omit hView in
/-- Where nothing is annotated, the source is copied without a call. -/
theorem onward_copyThrough
    (hNone : (p.files annotated).holds (Artifacts.ofCommand job.command).annotated = false) :
    Action.Ends (fun w => w.tree = annotated ∧ p.Reached job.command prior annotated [.annotate] w)
      (p.copyThrough job)
      (p.Onward job.command prior (p.Reached job.command prior annotated [.annotate])) := by
  refine Onward.bind (onward_announce job .copyThrough fun w event h => ⟨h.1, h.2.event event⟩)
    fun _ => Action.Ends.tree fun tree => ?_
  rintro w ⟨rfl, hTree, hReached⟩
  rw [hTree]
  cases hCopy : (p.files annotated).copy job.command.sourcePath
      (Artifacts.ofCommand job.command).merged with
  | ok tree => exact hReached
  | error cause =>
      obtain ⟨calls, hTrace, hSpells, hSuccess⟩ := hReached
      obtain ⟨first, rfl, -⟩ := List.map_eq_singleton_iff.mp hSpells.stages
      exact ⟨_, hTrace, hAdmitted, annotated, _, annotate_prefix_word hAdmitted annotated, hSpells,
        by simp, .copy (hSuccess first (by simp)) hNone hCopy⟩

/-- The instrumenting call ends the word of its unit. -/
theorem onward_conclude (made : Bool) (hStages : stages ≠ [])
    (hWord : p.word job.command annotated = stages ++ [.instrument]) :
    Action.Ends (p.Reached job.command prior annotated stages) (p.conclude job view made)
      (p.Onward job.command prior
        (p.Reached job.command prior annotated (p.word job.command annotated))) := by
  have hInvoke := onward_invoke prior hAdmitted hView
    (.instrument : p.Makes job.command view (p.instrumentCall job.command view)) hStages
    (by rw [hWord]; exact List.prefix_refl _)
  refine Onward.bind (onward_announce job .instrument fun w event h => h.event event) fun _ => ?_
  refine Onward.bind hInvoke fun _ => ?_
  refine Onward.bind (onward_announce job .cleanup fun w event h => h.event event) fun _ => ?_
  rw [hWord]
  refine Onward.bind (onward_change _ fun w other hTrace h => h.of_records (by rw [hTrace]))
    fun _ w hReached => ?_
  exact hReached

variable (prior) in
/-- What follows the annotating call ends the word that the tree it has left decides. -/
theorem onward_rest (made : Bool)
    (hMade : (p.files annotated).holds (Artifacts.ofCommand job.command).annotated = made) :
    Action.Ends (fun w => w.tree = annotated ∧ p.Reached job.command prior annotated [.annotate] w)
      (p.provideMerged job view made >>= fun _ => p.conclude job view made)
      (p.Onward job.command prior
        (p.Reached job.command prior annotated (p.word job.command annotated))) := by
  cases made with
  | true =>
      refine Onward.bind (onward_expandAndMerge hAdmitted hView hMade) fun _ =>
        onward_conclude hAdmitted hView true (by simp) ?_
      simp only [word, hAdmitted, hMade, if_true]
      rfl
  | false =>
      refine Onward.bind (onward_copyThrough hAdmitted hMade) fun _ =>
        onward_conclude hAdmitted hView false (by simp) ?_
      simp [word, hAdmitted, hMade]

variable (prior) in
/-- The calls of an admitted unit whose command has usable tokens. -/
theorem onward_stages :
    Action.Ends (fun w => Happening.records w.trace = prior) (p.stages job view)
      (p.Onward job.command prior fun w => ∃ annotated,
        p.Reached job.command prior annotated (p.word job.command annotated) w) := by
  refine Onward.bind (onward_change _ fun w other hTrace h => by rwa [hTrace]) fun _ => ?_
  refine Onward.bind (onward_announce job .annotate fun w event h =>
    (Happening.records_append_event _ _).trans h) fun _ => ?_
  have hAnnotate := onward_annotate prior hAdmitted hView
  refine Onward.bind hAnnotate fun _ => ?_
  refine Action.Ends.tree ?_
  intro annotated
  -- The word is decided here, by the tree that the annotating call has left.
  generalize hMade : (p.files annotated).holds (Artifacts.ofCommand job.command).annotated = made
  refine (onward_rest prior hAdmitted hView made hMade).weaken ?_
    fun _ _ hEnd => hEnd.weaken fun hReached => ⟨annotated, hReached⟩
  rintro w ⟨rfl, hReached⟩
  exact ⟨rfl, hReached⟩

end

/-- A command that cannot be taken apart has no usable tokens. -/
theorem exists_commandFault {failure : Failure}
    (hTokens : CommandView.ofCommand c = .error failure) :
    ∃ fault, CompileDatabase.commandFault? c = some fault ∧
      failure = .malformedDatabase c.file (.command fault) := by
  unfold CommandView.ofCommand at hTokens
  unfold CompileDatabase.commandFault?
  cases hRead : c.tokens? with
  | none =>
      rw [hRead] at hTokens
      exact ⟨.unbalanced, rfl, (Except.error.inj hTokens).symm⟩
  | some tokens =>
      rw [hRead] at hTokens
      cases tokens with
      | nil => exact ⟨.empty, rfl, (Except.error.inj hTokens).symm⟩
      | cons program rest => cases hTokens

/-- The calls of one unit. -/
theorem onward_process (p : Pipeline σ) (prior : List CallRecord) (job : Job) :
    Action.Ends (fun w => Happening.records w.trace = prior) (p.process job)
      (p.Onward job.command prior fun w => ∃ calls,
        Happening.records w.trace = prior ++ calls ∧ p.Completes job.command calls) := by
  unfold process
  split
  next hAdmitted =>
    have hView : Action.Ends (fun w : World σ => Happening.records w.trace = prior)
        (Action.ofExcept (CommandView.ofCommand job.command)) fun result w =>
          CommandView.ofCommand job.command = result ∧ Happening.records w.trace = prior :=
      fun w hTrace => ⟨rfl, hTrace⟩
    refine hView.bind (fun view w hStart => ?_) fun failure w hFailed => ?_
    · obtain ⟨hTokens, hTrace⟩ := hStart
      have hStages := onward_stages prior hAdmitted hTokens w hTrace
      unfold Action.followedBy
      cases hResult : (p.stages job view w).1 with
      | ok outcome =>
          rw [hResult] at hStages
          obtain ⟨annotated, calls, hCalls, hSpells, hSuccess⟩ := hStages
          exact ⟨calls, hCalls, annotated, hSpells, hSuccess⟩
      | error failure =>
          rw [hResult] at hStages
          exact hStages
    · obtain ⟨hTokens, hTrace⟩ := hFailed
      obtain ⟨fault, hFault, rfl⟩ := exists_commandFault hTokens
      refine ⟨[], by rw [hTrace, List.append_nil], hAdmitted, w.tree, [], List.nil_prefix,
        .nil p _ _, by simp, .tokens hFault⟩
  next hSkipped =>
    refine Onward.bind (onward_announce job .select fun w event h =>
      (Happening.records_append_event _ _).trans h) fun _ w hTrace => ?_
    have hWord : p.word job.command w.tree = [] := if_neg hSkipped
    refine ⟨[], hTrace.trans (List.append_nil _).symm, w.tree, ?_, by simp⟩
    rw [hWord]
    exact .nil p _ _

/-- However a unit ends, it has made no other calls than those of its command. -/
theorem exists_makes_of_mem_records (p : Pipeline σ) (job : Job) (tree : FileTree) (state : σ) :
    ∀ call ∈ Happening.records (p.process job ⟨tree, state, []⟩).2.trace,
      ∃ view, CommandView.ofCommand job.command = .ok view ∧
        p.Makes job.command view call.invocation := by
  have hUnit := p.onward_process [] job ⟨tree, state, []⟩ rfl
  cases hResult : (p.process job ⟨tree, state, []⟩).1 with
  | ok outcome =>
      rw [hResult] at hUnit
      obtain ⟨calls, hTrace, annotated, hSpells, -⟩ := hUnit
      rw [hTrace]
      exact hSpells.made
  | error failure =>
      rw [hResult] at hUnit
      obtain ⟨calls, hTrace, -, annotated, stages, -, hSpells, -, -⟩ := hUnit
      rw [hTrace]
      exact hSpells.made

/-- The calls of a run from some unit on. -/
theorem follows_runFrom (p : Pipeline σ) (prior : List CallRecord) (total current : Nat)
    (report : Report) (commands : List CompileCommand) :
    Action.Ends (fun w => Happening.records w.trace = prior)
      (p.runFrom total report current commands) fun result w => ∃ calls,
        Happening.records w.trace = prior ++ calls ∧ p.Follows commands calls result := by
  -- What earlier units have called is a prefix of the trace, and grows from unit to unit.
  induction commands generalizing prior current report with
  | nil => exact fun w hTrace => ⟨[], by rw [List.append_nil]; exact hTrace, .finished report⟩
  | cons c rest ih =>
      refine (p.onward_process prior ⟨current, total, c⟩).bind (fun outcome w hUnit => ?_)
        fun failure w hBroken => ?_
      · obtain ⟨calls, hTrace, hComplete⟩ := hUnit
        obtain ⟨more, hMore, hFollows⟩ := ih (prior ++ calls) (current + 1)
          (report.record outcome) w hTrace
        exact ⟨calls ++ more, by rw [hMore, List.append_assoc], .next hComplete hFollows⟩
      · obtain ⟨calls, hTrace, hBreaks⟩ := hBroken
        exact ⟨calls, hTrace, .stopped hBreaks⟩

end

/-- The calls of a run are the words of its units in the order of the database. If the run succeeds
they are all complete. If it fails, those of the units before the failing one are, the failing unit
breaks off in its word, and what the run ends with is what it breaks off with. -/
theorem run_follows_words (p : Pipeline σ) (database : CompileDatabase) (tree : FileTree)
    (state : σ) :
    p.Follows database.commands (Happening.records (p.run database ⟨tree, state, []⟩).2.trace)
      (p.run database ⟨tree, state, []⟩).1 := by
  obtain ⟨calls, hTrace, hFollows⟩ := p.follows_runFrom [] database.commands.length 1
    (.initial database.commands.length) database.commands ⟨tree, state, []⟩ rfl
  rw [List.nil_append] at hTrace
  rw [run, hTrace]
  exact hFollows

end Pipeline

end CallbackWeave

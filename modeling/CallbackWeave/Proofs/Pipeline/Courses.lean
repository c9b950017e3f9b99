import CallbackWeave.Proofs.Pipeline.Protocol

/-!
The courses of units. A unit enters one stage after another; of each stage a run records the event
that it is entered, if events are recorded at all, and the call that is made in it, if there is one.
What a unit ends with can be told from its course, and a run is the courses of its units, one after
another, up to the first that fails.
-/

namespace CallbackWeave

/-- A stage that a unit enters, with the call that is made in it. -/
structure Passage where
  stage : Stage
  call? : Option CallRecord

/-- The work on a unit: the world in which it begins, and the stages that the unit enters. -/
structure Course (σ : Type) where
  job : Job
  start : World σ
  passages : List Passage

/-- Whether a program is called in a stage of a unit. -/
def Stage.callsProgram : Stage → Bool
  | annotate | expand | merge | instrument => true
  | _ => false

/-- The stages of a unit by what becomes of it. -/
def Outcome.stages : Outcome → List Stage
  | skipped => [.select]
  | instrumented true => [.annotate, .copyThrough, .instrument, .cleanup]
  | instrumented false => [.annotate, .expand, .merge, .instrument, .cleanup]

/-- A call as it stands in a trace. -/
def CallRecord.happening (call : CallRecord) : Happening :=
  .call call.invocation call.result call.found call.left

/-- The event that a unit enters a stage. -/
def Job.event (job : Job) (stage : Stage) : Event :=
  ⟨stage, job.current, job.total, job.command.sourcePath⟩

namespace Pipeline

variable {σ : Type}

/-- What is recorded as a unit enters a stage. -/
def entered (p : Pipeline σ) (job : Job) (stage : Stage) : List Happening :=
  if p.announces then [.event (job.event stage)] else []

/-- What is recorded of one stage of a unit. -/
def told (p : Pipeline σ) (job : Job) (passage : Passage) : List Happening :=
  p.entered job passage.stage ++ (passage.call?.map CallRecord.happening).toList

/-- What is recorded of a unit. -/
def tale (p : Pipeline σ) (course : Course σ) : List Happening :=
  course.passages.flatMap (p.told course.job)

/-- A call is that of a stage of a unit. -/
structure Serves (p : Pipeline σ) (c : CompileCommand) (stage : Stage) (i : Invocation) : Prop where
  stage_eq : i.stage = stage
  made : ∃ view, CommandView.ofCommand c = .ok view ∧ p.Makes c view i

/-- A unit gets through a stage: the program of the stage, if it has one, is called for the unit and
exits with code 0. -/
structure Passes (p : Pipeline σ) (c : CompileCommand) (passage : Passage) : Prop where
  called : passage.call?.isSome = passage.stage.callsProgram
  serves : ∀ call ∈ passage.call?, p.Serves c passage.stage call.invocation
  success : ∀ call ∈ passage.call?, call.result = .ok ⟨some 0⟩

/-- A unit fails in a stage. -/
inductive Fails (p : Pipeline σ) (c : CompileCommand) : Passage → Failure → Prop where
  /-- The program of the stage exits with another code than 0, or a signal ends it. -/
  | exit {stage : Stage} {call : CallRecord} {status : ExitStatus}
      (serves : p.Serves c stage call.invocation) (result : call.result = .ok status)
      (code : status.code ≠ some 0) :
      Fails p c ⟨stage, some call⟩ (.subprocess stage c.sourcePath status.code)
  /-- The program of the stage cannot be run. -/
  | runner {stage : Stage} {call : CallRecord} {failure : Failure}
      (serves : p.Serves c stage call.invocation) (result : call.result = .error failure) :
      Fails p c ⟨stage, some call⟩ failure
  /-- Not exactly one token of the command names the source, and no compiler is called. -/
  | source {count : Nat} (several : count ≠ 1) :
      Fails p c ⟨.expand, none⟩ (.unmatchedSource c.sourcePath count)
  /-- The source cannot be copied. -/
  | copy {cause : IoError} : Fails p c ⟨.copyThrough, none⟩ (.pathIo c.sourcePath cause)

/-- The stages that a unit enters, and what it ends with. -/
inductive Goes (p : Pipeline σ) (c : CompileCommand) :
    List Passage → Except Failure Outcome → Prop where
  | completes {passages : List Passage} {outcome : Outcome}
      (admitted : p.allowlist.admits c.sourcePath = decide (outcome ≠ .skipped))
      (stages : passages.map (·.stage) = outcome.stages)
      (passed : ∀ passage ∈ passages, p.Passes c passage) : Goes p c passages (.ok outcome)
  | breaks {earlier : List Passage} {last : Passage} {failure : Failure} (copied : Bool)
      (admitted : p.allowlist.admits c.sourcePath = true)
      (stages : (earlier ++ [last]).map (·.stage) <+: (Outcome.instrumented copied).stages)
      (passed : ∀ passage ∈ earlier, p.Passes c passage) (fails : p.Fails c last failure) :
      Goes p c (earlier ++ [last]) (.error failure)
  /-- No stage is entered, since the command has no usable tokens. -/
  | unusable {fault : CommandFault} (admitted : p.allowlist.admits c.sourcePath = true)
      (fault_eq : CompileDatabase.commandFault? c = some fault) :
      Goes p c [] (.error (.malformedDatabase c.file (.command fault)))

/-- The work on the units of a run, and what the run ends with. The first unit has a given number,
the work on it begins in a given world, and a report has been made on those before. -/
inductive Covers (p : Pipeline σ) (total : Nat) :
    Nat → Report → World σ → List CompileCommand → List (Course σ) → Except Failure Report →
      Prop where
  | finished {current : Nat} {report : Report} {w : World σ} :
      Covers p total current report w [] [] (.ok report)
  | next {current : Nat} {report : Report} {w left : World σ} {c : CompileCommand}
      {rest : List CompileCommand} {passages : List Passage} {outcome : Outcome}
      {courses : List (Course σ)} {result : Except Failure Report}
      (work : p.process ⟨current, total, c⟩ w = (.ok outcome, left))
      (recorded : left.trace = w.trace ++ p.tale ⟨⟨current, total, c⟩, w, passages⟩)
      (unit : p.Goes c passages (.ok outcome))
      (run : Covers p total (current + 1) (report.record outcome) left rest courses result) :
      Covers p total current report w (c :: rest) (⟨⟨current, total, c⟩, w, passages⟩ :: courses)
        result
  | stopped {current : Nat} {report : Report} {w left : World σ} {c : CompileCommand}
      {rest : List CompileCommand} {passages : List Passage} {failure : Failure}
      (work : p.process ⟨current, total, c⟩ w = (.error failure, left))
      (recorded : left.trace = w.trace ++ p.tale ⟨⟨current, total, c⟩, w, passages⟩)
      (unit : p.Goes c passages (.error failure)) :
      Covers p total current report w (c :: rest) [⟨⟨current, total, c⟩, w, passages⟩]
        (.error failure)

theorem Makes.callsProgram {p : Pipeline σ} {c : CompileCommand} {view : CommandView}
    {i : Invocation} (h : p.Makes c view i) : i.stage.callsProgram = true := by
  cases h <;> rfl

section

variable {p : Pipeline σ} {job : Job} {prior more : List Happening} {stages : List Stage}
  {stage : Stage} {copied : Bool}

/-- Beyond what a trace held before, a unit has got through some stages, and recorded some more. -/
def Along (p : Pipeline σ) (job : Job) (prior : List Happening) (stages : List Stage)
    (more : List Happening) (w : World σ) : Prop :=
  ∃ passages : List Passage, w.trace = prior ++ passages.flatMap (p.told job) ++ more ∧
    passages.map (·.stage) = stages ∧ ∀ passage ∈ passages, p.Passes job.command passage

variable (p job) in
theorem along_nil {w : World σ} (hTrace : w.trace = prior) : p.Along job prior [] [] w :=
  ⟨[], by simpa using hTrace, rfl, by simp⟩

/-- A part of a unit ends as it should, or the course of the unit ends with a failure. -/
def Tells (p : Pipeline σ) (job : Job) (prior : List Happening) {α : Type}
    (good : α → World σ → Prop) : Except Failure α → World σ → Prop
  | .ok a, w => good a w
  | .error failure, w =>
    ∃ passages, w.trace = prior ++ passages.flatMap (p.told job) ∧
      p.Goes job.command passages (.error failure)

/-- Once a unit has failed, nothing more is recorded of it. -/
theorem Tells.bind {α β : Type} {before : World σ → Prop} {middle : α → World σ → Prop}
    {last : β → World σ → Prop} {first : Action σ α} {next : α → Action σ β}
    (hFirst : Action.Ends before first (p.Tells job prior middle))
    (hNext : ∀ a, Action.Ends (middle a) (next a) (p.Tells job prior last)) :
    Action.Ends before (first >>= next) (p.Tells job prior last) :=
  hFirst.bind hNext fun _ _ hFailed => hFailed

/-- What concerns the trace alone outlasts every change of the tree. -/
theorem tells_change (f : FileTree → FileTree) :
    Action.Ends (p.Along job prior stages more) (Action.change f)
      (p.Tells job prior fun _ => p.Along job prior stages more) :=
  fun _ hAlong => hAlong

variable (p job prior stages stage) in
theorem tells_announce :
    Action.Ends (p.Along job prior stages []) (p.announce job stage)
      (p.Tells job prior fun _ => p.Along job prior stages (p.entered job stage)) := by
  rintro w ⟨passages, hTrace, hStages, hPassed⟩
  rw [List.append_nil] at hTrace
  unfold announce entered
  split
  · exact ⟨passages, by rw [← hTrace]; rfl, hStages, hPassed⟩
  · exact ⟨passages, by rw [List.append_nil]; exact hTrace, hStages, hPassed⟩

/-- With one more passage a unit is one stage further. -/
theorem Along.advance {w : World σ} {passage : Passage}
    (h : p.Along job prior stages (p.told job passage) w)
    (hPasses : p.Passes job.command passage) :
    p.Along job prior (stages ++ [passage.stage]) [] w := by
  obtain ⟨passages, hTrace, hStages, hPassed⟩ := h
  refine ⟨passages ++ [passage], ?_, by simp [hStages], ?_⟩
  · rw [hTrace]
    simp
  · intro other hMem
    rcases List.mem_append.mp hMem with hOld | hNew
    · exact hPassed other hOld
    · exact List.mem_singleton.mp hNew ▸ hPasses

/-- A stage in which no program is called is got through as soon as it is entered. -/
theorem Along.advance_quiet {w : World σ} (h : p.Along job prior stages (p.entered job stage) w)
    (hQuiet : stage.callsProgram = false) : p.Along job prior (stages ++ [stage]) [] w := by
  have hTold : p.Along job prior stages (p.told job ⟨stage, none⟩) w := by
    rwa [told, Option.map_none, Option.toList_none, List.append_nil]
  exact hTold.advance ⟨hQuiet.symm, by simp, by simp⟩

section

variable (hAdmitted : p.allowlist.admits job.command.sourcePath = true)

include hAdmitted

variable (copied) in
/-- A unit that fails in a stage has no further one. -/
theorem Along.break {w : World σ} {passage : Passage} {failure : Failure}
    (h : p.Along job prior stages (p.told job passage) w)
    (hWay : stages ++ [passage.stage] <+: (Outcome.instrumented copied).stages)
    (hFails : p.Fails job.command passage failure) :
    ∃ passages, w.trace = prior ++ passages.flatMap (p.told job) ∧
      p.Goes job.command passages (.error failure) := by
  obtain ⟨passages, hTrace, rfl, hPassed⟩ := h
  have hEntered : (passages ++ [passage]).map (·.stage) <+:
      (Outcome.instrumented copied).stages := by
    rwa [List.map_append]
  refine ⟨passages ++ [passage], ?_, .breaks copied hAdmitted hEntered hPassed hFails⟩
  rw [hTrace]
  simp

variable (copied) in
/-- The same of a stage in which no program has been called. -/
theorem Along.break_quiet {w : World σ} {failure : Failure}
    (h : p.Along job prior stages (p.entered job stage) w)
    (hWay : stages ++ [stage] <+: (Outcome.instrumented copied).stages)
    (hFails : p.Fails job.command ⟨stage, none⟩ failure) :
    ∃ passages, w.trace = prior ++ passages.flatMap (p.told job) ∧
      p.Goes job.command passages (.error failure) := by
  have hTold : p.Along job prior stages (p.told job ⟨stage, none⟩) w := by
    rwa [told, Option.map_none, Option.toList_none, List.append_nil]
  exact hTold.break copied hAdmitted hWay hFails

variable {view : CommandView} (hView : CommandView.ofCommand job.command = .ok view)

include hView

variable (prior stages copied) in
/-- A call ends the stage that has been entered, or the course of its unit. -/
theorem tells_invoke {i : Invocation} (hMade : p.Makes job.command view i)
    (hWay : stages ++ [i.stage] <+: (Outcome.instrumented copied).stages) :
    Action.Ends (p.Along job prior stages (p.entered job i.stage)) (p.invoke job i)
      (p.Tells job prior fun _ => p.Along job prior (stages ++ [i.stage]) []) := by
  rintro w ⟨passages, hTrace, hStages, hPassed⟩
  have hServes : p.Serves job.command i.stage (p.recordOf i w).invocation :=
    ⟨rfl, view, hView, hMade⟩
  have hAlong : p.Along job prior stages (p.told job ⟨i.stage, some (p.recordOf i w)⟩)
      (p.invoke job i w).2 := by
    refine ⟨passages, ?_, hStages, hPassed⟩
    rw [invoke_eq, told, ← List.append_assoc, ← hTrace]
    rfl
  obtain ⟨hResult, -, -⟩ := p.invoke_recordOf job i w
  rw [hResult]
  rcases verdict_cases job i (p.recordOf i w).result with
    ⟨hExit, hVerdict⟩ | ⟨status, hExit, hCode, hVerdict⟩ | ⟨failure, hExit, hVerdict⟩ <;>
    rw [hVerdict]
  · exact hAlong.advance ⟨hMade.callsProgram.symm, by simpa using hServes, by simpa using hExit⟩
  · exact hAlong.break copied hAdmitted hWay (.exit hServes hExit hCode)
  · exact hAlong.break copied hAdmitted hWay (.runner hServes hExit)

theorem tells_expandAndMerge :
    Action.Ends (p.Along job prior [.annotate] []) (p.expandAndMerge job view)
      (p.Tells job prior fun _ => p.Along job prior [.annotate, .expand, .merge] []) := by
  refine Tells.bind (tells_announce p job prior _ .expand) fun _ => Action.Ends.tree fun tree => ?_
  have hTokens : Action.Ends
      (fun w => w.tree = tree ∧ p.Along job prior [.annotate] (p.entered job .expand) w)
      (Action.ofExcept (view.compilerOnly (p.files tree)))
      (p.Tells job prior fun _ => p.Along job prior [.annotate] (p.entered job .expand)) := by
    rintro w ⟨-, hAlong⟩
    unfold CommandView.compilerOnly
    split
    next => exact hAlong
    next hSeveral =>
      refine hAlong.break_quiet false hAdmitted ⟨[.merge, .instrument, .cleanup], rfl⟩ ?_
      rw [CommandView.command_of_ofCommand hView]
      exact .source hSeveral
  refine Tells.bind hTokens fun tokens => ?_
  have hExpand := tells_invoke prior [.annotate] false hAdmitted hView (.expand (tokens.drop 1))
    ⟨[.merge, .instrument, .cleanup], rfl⟩
  refine Tells.bind hExpand fun _ => ?_
  refine Tells.bind (tells_announce p job prior _ .merge) fun _ => ?_
  exact tells_invoke prior [.annotate, .expand] false hAdmitted hView .merge
    ⟨[.instrument, .cleanup], rfl⟩

omit hView in
theorem tells_copyThrough :
    Action.Ends (p.Along job prior [.annotate] []) (p.copyThrough job)
      (p.Tells job prior fun _ => p.Along job prior [.annotate, .copyThrough] []) := by
  refine Tells.bind (tells_announce p job prior _ .copyThrough) fun _ =>
    Action.Ends.tree fun tree => ?_
  rintro w ⟨-, hAlong⟩
  cases hCopy : (p.files tree).copy job.command.sourcePath
      (Artifacts.ofCommand job.command).merged with
  | ok copied => exact hAlong.advance_quiet rfl
  | error cause => exact hAlong.break_quiet true hAdmitted ⟨[.instrument, .cleanup], rfl⟩ .copy

theorem tells_conclude (made : Bool)
    (hWay : (Outcome.instrumented (!made)).stages = stages ++ [.instrument, .cleanup]) :
    Action.Ends (p.Along job prior stages []) (p.conclude job view made)
      (p.Tells job prior fun outcome w => outcome = .instrumented (!made) ∧
        p.Along job prior outcome.stages [] w) := by
  refine Tells.bind (tells_announce p job prior _ .instrument) fun _ => ?_
  have hInstrument := tells_invoke prior stages (!made) hAdmitted hView .instrument
    ⟨[.cleanup], by rw [hWay, List.append_assoc]; rfl⟩
  refine Tells.bind hInstrument fun _ => ?_
  refine Tells.bind (tells_announce p job prior _ .cleanup) fun _ => ?_
  refine Tells.bind (tells_change _) fun _ w hAlong => ?_
  have hEnd := hAlong.advance_quiet rfl
  rw [List.append_assoc] at hEnd
  exact ⟨rfl, by rw [hWay]; exact hEnd⟩

/-- The course of an admitted unit whose command has usable tokens. -/
theorem tells_stages :
    Action.Ends (fun w => w.trace = prior) (p.stages job view)
      (p.Tells job prior fun outcome w => outcome ≠ .skipped ∧
        p.Along job prior outcome.stages [] w) := by
  have hStart := (tells_change (p.clear job.command)).weaken
    (fun w (hTrace : w.trace = prior) => along_nil p job hTrace) fun _ _ hEnd => hEnd
  refine Tells.bind hStart fun _ => ?_
  refine Tells.bind (tells_announce p job prior _ .annotate) fun _ => ?_
  have hAnnotate := tells_invoke prior [] true hAdmitted hView .annotate
    ⟨[.copyThrough, .instrument, .cleanup], rfl⟩
  refine Tells.bind hAnnotate fun _ => ?_
  refine Action.Ends.tree ?_
  intro tree
  -- Whether there is an annotated file decides between the two ways.
  generalize (p.files tree).holds (Artifacts.ofCommand job.command).annotated = made
  have hRest : Action.Ends (p.Along job prior [.annotate] [])
      (p.provideMerged job view made >>= fun _ => p.conclude job view made)
      (p.Tells job prior fun outcome w => outcome = .instrumented (!made) ∧
        p.Along job prior outcome.stages [] w) := by
    cases made with
    | true =>
        exact Tells.bind (tells_expandAndMerge hAdmitted hView) fun _ =>
          tells_conclude hAdmitted hView true rfl
    | false =>
        exact Tells.bind (tells_copyThrough hAdmitted) fun _ =>
          tells_conclude hAdmitted hView false rfl
  refine hRest.weaken (fun w hTree => hTree.2) fun result w hEnd => ?_
  cases result with
  | ok outcome => exact ⟨by rw [hEnd.1]; simp, hEnd.2⟩
  | error failure => exact hEnd

end

end

/-- The course of one unit. -/
theorem goes_process (p : Pipeline σ) (prior : List Happening) (job : Job) :
    Action.Ends (fun w => w.trace = prior) (p.process job) fun result w =>
      ∃ passages, w.trace = prior ++ passages.flatMap (p.told job) ∧
        p.Goes job.command passages result := by
  unfold process
  split
  next hAdmitted =>
    have hView : Action.Ends (fun w : World σ => w.trace = prior)
        (Action.ofExcept (CommandView.ofCommand job.command)) fun result w =>
          CommandView.ofCommand job.command = result ∧ w.trace = prior :=
      fun w hTrace => ⟨rfl, hTrace⟩
    refine hView.bind (fun view w hStart => ?_) fun failure w hFailed => ?_
    · obtain ⟨hTokens, hTrace⟩ := hStart
      have hStages := tells_stages hAdmitted hTokens w hTrace
      unfold Action.followedBy
      cases hResult : (p.stages job view w).1 with
      | ok outcome =>
          rw [hResult] at hStages
          obtain ⟨hOutcome, passages, hTold, hEntered, hPassed⟩ := hStages
          rw [List.append_nil] at hTold
          exact ⟨passages, hTold, .completes (by simp [hAdmitted, hOutcome]) hEntered hPassed⟩
      | error failure =>
          rw [hResult] at hStages
          exact hStages
    · obtain ⟨hTokens, hTrace⟩ := hFailed
      obtain ⟨fault, hFault, rfl⟩ := exists_commandFault hTokens
      exact ⟨[], by simpa using hTrace, .unusable hAdmitted hFault⟩
  next hSkipped =>
    have hStart : Action.Ends (fun w : World σ => w.trace = prior) (p.announce job .select)
        (p.Tells job prior fun _ => p.Along job prior [] (p.entered job .select)) :=
      fun w hTrace => tells_announce p job prior [] .select w (along_nil p job hTrace)
    refine hStart.bind (fun _ w hAlong => ?_) fun failure w hFailed => hFailed
    obtain ⟨passages, hTold, hEntered, hPassed⟩ := hAlong.advance_quiet rfl
    rw [List.append_nil] at hTold
    exact ⟨passages, hTold, .completes (by simpa using hSkipped) hEntered hPassed⟩

/-- A unit that does not fail is added to the report, and the run goes on behind it. -/
theorem runFrom_of_ok {p : Pipeline σ} {total current : Nat} {report : Report} {c : CompileCommand}
    {rest : List CompileCommand} {outcome : Outcome} {w left : World σ}
    (hWork : p.process ⟨current, total, c⟩ w = (.ok outcome, left)) :
    p.runFrom total report current (c :: rest) w =
      p.runFrom total (report.record outcome) (current + 1) rest left := by
  rw [runFrom]
  change Action.andThen _ _ w = _
  rw [Action.andThen, hWork]

/-- A unit that fails ends the run. -/
theorem runFrom_of_error {p : Pipeline σ} {total current : Nat} {report : Report}
    {c : CompileCommand} {rest : List CompileCommand} {failure : Failure} {w left : World σ}
    (hWork : p.process ⟨current, total, c⟩ w = (.error failure, left)) :
    p.runFrom total report current (c :: rest) w = (.error failure, left) := by
  rw [runFrom]
  change Action.andThen _ _ w = _
  rw [Action.andThen, hWork]

/-- The courses of a run from some unit on. -/
theorem covers_runFrom (p : Pipeline σ) (total current : Nat) (report : Report)
    (commands : List CompileCommand) (w : World σ) :
    ∃ courses, (p.runFrom total report current commands w).2.trace =
        w.trace ++ courses.flatMap p.tale ∧
      p.Covers total current report w commands courses
        (p.runFrom total report current commands w).1 := by
  -- What earlier units have recorded stays in front of the trace, and grows from unit to unit.
  induction commands generalizing current report w with
  | nil => exact ⟨[], by simp [runFrom, Action.pure], .finished⟩
  | cons c rest ih =>
      obtain ⟨passages, hTrace, hGoes⟩ := p.goes_process w.trace ⟨current, total, c⟩ w rfl
      rcases hWork : p.process ⟨current, total, c⟩ w with ⟨failure | outcome, left⟩ <;>
        rw [hWork] at hTrace hGoes
      · refine ⟨[⟨⟨current, total, c⟩, w, passages⟩], ?_⟩
        rw [runFrom_of_error hWork, List.flatMap_singleton]
        exact ⟨hTrace, .stopped hWork hTrace hGoes⟩
      · obtain ⟨courses, hMore, hCovers⟩ := ih (current + 1) (report.record outcome) left
        refine ⟨⟨⟨current, total, c⟩, w, passages⟩ :: courses, ?_⟩
        rw [runFrom_of_ok hWork, hMore, hTrace, List.flatMap_cons, List.append_assoc]
        exact ⟨rfl, .next hWork hTrace hGoes hCovers⟩

/-- What a run records is the courses of its units in the order of the database. -/
theorem covers_run (p : Pipeline σ) (database : CompileDatabase) (tree : FileTree) (state : σ) :
    ∃ courses, (p.run database ⟨tree, state, []⟩).2.trace = courses.flatMap p.tale ∧
      p.Covers database.commands.length 1 (.initial database.commands.length) ⟨tree, state, []⟩
        database.commands courses (p.run database ⟨tree, state, []⟩).1 := by
  obtain ⟨courses, hTrace, hCovers⟩ := p.covers_runFrom database.commands.length 1
    (.initial database.commands.length) database.commands ⟨tree, state, []⟩
  rw [List.nil_append] at hTrace
  exact ⟨courses, hTrace, hCovers⟩

end Pipeline

end CallbackWeave

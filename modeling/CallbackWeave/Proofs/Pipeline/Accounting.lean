import CallbackWeave.Proofs.Pipeline.Commuting
import CallbackWeave.Proofs.Pipeline.Courses

/-!
The report of a run that succeeds. Its counters agree with the restriction of the run and with the
calls that have been made: each unit adds to the report what its course adds to the calls.
-/

namespace CallbackWeave

/-- The number of calls of a stage in a trace. -/
def Happening.callCount (trace : List Happening) (stage : Stage) : Nat :=
  (Happening.calls trace).countP fun i => i.stage = stage

theorem Happening.callCount_append (trace more : List Happening) (stage : Stage) :
    callCount (trace ++ more) stage = callCount trace stage + callCount more stage := by
  rw [callCount, calls_append, List.countP_append]
  rfl

/-- The stages of an outcome, counted. -/
theorem Outcome.count_stages (outcome : Outcome) :
    outcome.stages.count .instrument + outcome.stages.count .select = 1 ∧
      outcome.stages.count .annotate = outcome.stages.count .instrument ∧
      outcome.stages.count .expand + outcome.stages.count .copyThrough =
        outcome.stages.count .annotate ∧
      outcome.stages.count .merge = outcome.stages.count .expand := by
  rcases outcome with ⟨_ | _⟩ | _ <;> decide

theorem Outcome.count_select (outcome : Outcome) :
    outcome.stages.count .select = if !decide (outcome ≠ .skipped) then 1 else 0 := by
  rcases outcome with ⟨_ | _⟩ | _ <;> decide

/-- A report counts the stages of outcomes. -/
theorem Report.record_eq (report : Report) (outcome : Outcome) :
    report.record outcome =
      ⟨report.total, report.instrumented + outcome.stages.count .instrument,
        report.copiedThrough + outcome.stages.count .copyThrough,
        report.skipped + outcome.stages.count .select⟩ := by
  rcases outcome with ⟨_ | _⟩ | _ <;> rfl

namespace Pipeline

variable {σ : Type} {p : Pipeline σ}

/-- In a stage that a unit gets through its program is called once, and no other one. -/
theorem callCount_told {job : Job} {passage : Passage} {stage : Stage}
    (hPasses : p.Passes job.command passage) (hStage : stage.callsProgram = true) :
    Happening.callCount (p.told job passage) stage = [passage.stage].count stage := by
  have hEntered : Happening.callCount (p.entered job passage.stage) stage = 0 := by
    unfold entered
    split <;> rfl
  rw [told, Happening.callCount_append, hEntered, Nat.zero_add]
  obtain ⟨own, call?⟩ := passage
  have hCalled := hPasses.called
  cases call? with
  | none =>
      have hOther : own ≠ stage := by
        rintro rfl
        rw [show own.callsProgram = false from hCalled.symm] at hStage
        cases hStage
      simp [Happening.callCount, Happening.calls, hOther]
  | some call =>
      have hOwn : call.invocation.stage = own := (hPasses.serves call rfl).stage_eq
      simp [Happening.callCount, Happening.calls, CallRecord.happening, hOwn, List.count_cons]

/-- A unit that does not fail makes the calls of its stages. -/
theorem Goes.callCount {job : Job} {w : World σ} {passages : List Passage} {outcome : Outcome}
    {stage : Stage} (h : p.Goes job.command passages (.ok outcome))
    (hStage : stage.callsProgram = true) :
    Happening.callCount (p.tale ⟨job, w, passages⟩) stage = outcome.stages.count stage := by
  cases h with
  | completes admitted stages passed =>
      rw [← stages]
      clear stages
      induction passages with
      | nil => rfl
      | cons passage rest ih =>
          obtain ⟨hFirst, hRest⟩ := List.forall_mem_cons.mp passed
          have hTale : p.tale ⟨job, w, passage :: rest⟩ =
              p.told job passage ++ p.tale ⟨job, w, rest⟩ := rfl
          rw [hTale, Happening.callCount_append, ih hRest, callCount_told hFirst hStage,
            List.map_cons, ← List.count_append]
          rfl

/-- What units add to a report, told by the restriction of the run and by a trace. -/
structure Adds (p : Pipeline σ) (commands : List CompileCommand) (trace : List Happening)
    (report final : Report) : Prop where
  total : final.total = report.total
  units : final.instrumented + final.skipped =
    report.instrumented + report.skipped + commands.length
  skipped : final.skipped =
    report.skipped + commands.countP fun c => !p.allowlist.admits c.sourcePath
  annotate : final.instrumented = report.instrumented + Happening.callCount trace .annotate
  instrument : final.instrumented = report.instrumented + Happening.callCount trace .instrument
  expand : final.copiedThrough + Happening.callCount trace .expand =
    report.copiedThrough + Happening.callCount trace .annotate
  merge : final.copiedThrough + Happening.callCount trace .merge =
    report.copiedThrough + Happening.callCount trace .annotate

theorem Adds.nil (report : Report) : p.Adds [] [] report report := by
  constructor <;> rfl

/-- One unit more adds its own share. -/
theorem Adds.next (job : Job) (w : World σ) {passages : List Passage} {outcome : Outcome}
    {rest : List CompileCommand} {trace : List Happening} {report final : Report}
    (hUnit : p.Goes job.command passages (.ok outcome))
    (h : p.Adds rest trace (report.record outcome) final) :
    p.Adds (job.command :: rest) (p.tale ⟨job, w, passages⟩ ++ trace) report final := by
  have hCalls : ∀ stage : Stage, stage.callsProgram = true →
      Happening.callCount (p.tale ⟨job, w, passages⟩ ++ trace) stage =
        outcome.stages.count stage + Happening.callCount trace stage := fun stage hStage => by
    rw [Happening.callCount_append, hUnit.callCount hStage]
  have hAnnotate := hCalls .annotate rfl
  have hExpand := hCalls .expand rfl
  have hMerge := hCalls .merge rfl
  have hInstrument := hCalls .instrument rfl
  have hSkipped : ((job.command :: rest).countP fun c => !p.allowlist.admits c.sourcePath) =
      (rest.countP fun c => !p.allowlist.admits c.sourcePath) + outcome.stages.count .select := by
    cases hUnit with
    | completes admitted => rw [List.countP_cons, admitted, outcome.count_select]
  have hLength : (job.command :: rest).length = rest.length + 1 := List.length_cons
  obtain ⟨hOnce, hAgain, hEither, hMerged⟩ := outcome.count_stages
  rw [report.record_eq outcome] at h
  obtain ⟨total, units, skipped, annotate, instrument, expand, merge⟩ := h
  simp only at total units skipped annotate instrument expand merge
  constructor <;> omega

/-- The courses of a run that succeeds add to the report what it ends with. -/
theorem Covers.adds {total current : Nat} {report final : Report} {w : World σ}
    {commands : List CompileCommand} {courses : List (Course σ)} {result : Except Failure Report}
    (h : p.Covers total current report w commands courses result) (hResult : result = .ok final) :
    p.Adds commands (courses.flatMap p.tale) report final := by
  induction h with
  | finished =>
      obtain rfl := Except.ok.inj hResult
      exact .nil _
  | next work recorded unit run ih => exact Adds.next ⟨_, _, _⟩ _ unit (ih hResult)
  | stopped => cases hResult

/-- A report accounts for some commands and for the calls in a trace. -/
structure Accounts (p : Pipeline σ) (commands : List CompileCommand) (trace : List Happening)
    (report : Report) : Prop where
  total : report.total = commands.length
  /-- Every unit has been instrumented or skipped. -/
  units : report.instrumented + report.skipped = report.total
  /-- The units that have been skipped are those that are not admitted. -/
  skipped : report.skipped = commands.countP fun c => !p.allowlist.admits c.sourcePath
  copied_le : report.copiedThrough ≤ report.instrumented
  annotate : Happening.callCount trace .annotate = report.instrumented
  instrument : Happening.callCount trace .instrument = report.instrumented
  /-- A unit that has been annotated has been expanded, or else copied through. -/
  expand : Happening.callCount trace .expand + report.copiedThrough =
    Happening.callCount trace .annotate
  merge : Happening.callCount trace .merge + report.copiedThrough =
    Happening.callCount trace .annotate

/-- If a run succeeds, its report accounts for every unit of the database and for every call. -/
theorem run_accounts (p : Pipeline σ) (database : CompileDatabase) (tree : FileTree) (state : σ)
    {report : Report} (hRun : (p.run database ⟨tree, state, []⟩).1 = .ok report) :
    p.Accounts database.commands (p.run database ⟨tree, state, []⟩).2.trace report := by
  obtain ⟨courses, hTrace, hCovers⟩ := p.covers_run database tree state
  rw [hTrace]
  obtain ⟨total, units, skipped, annotate, instrument, expand, merge⟩ := hCovers.adds hRun
  simp only [Report.initial, Nat.zero_add] at *
  constructor <;> omega

/-- Those tools in a run that is restricted to one of two sources. -/
def sparingSelective : Pipeline Unit := selective sparingSample.runner

/-- Such a run skips the unit that is not admitted, and copies the source of the other one. -/
theorem run_accounts_sparing :
    (sparingSelective.run (.pair "b.c") ⟨.pair "b.c", (), []⟩).1 = .ok ⟨2, 1, 1, 1⟩ ∧
    sparingSelective.Accounts (CompileDatabase.pair "b.c").commands
      (sparingSelective.run (.pair "b.c") ⟨.pair "b.c", (), []⟩).2.trace ⟨2, 1, 1, 1⟩ := by
  have hSkipped : sparingSelective.allowlist.admits (Job.sample "b.c").command.sourcePath =
      false := by decide +kernel
  have hAdmitted : sparingSelective.allowlist.admits (Job.sample "a.c").command.sourcePath =
      true := by decide +kernel
  have hPlain : ∀ place ∈ (Job.sample "a.c").command.places .sample,
      (FileTree.pair "b.c").get? place ≠ some .directory := by decide +kernel
  have hLimits : (Artifacts.ofCommand (Job.sample "a.c").command).WithinLimits := by
    unfold Artifacts.WithinLimits
    decide +kernel
  have hFirst : sparingSelective.process ⟨1, 2, (Job.sample "b.c").command⟩
      ⟨.pair "b.c", (), []⟩ = (.ok .skipped, ⟨.pair "b.c", (),
        [.event (Job.event ⟨1, 2, (Job.sample "b.c").command⟩ .select)]⟩) := by
    rw [process, if_neg (by simp [hSkipped])]
    rfl
  have hSecond : (sparingSelective.process ⟨2, 2, (Job.sample "a.c").command⟩ ⟨.pair "b.c", (),
      [.event (Job.event ⟨1, 2, (Job.sample "b.c").command⟩ .select)]⟩).1 =
        .ok (.instrumented true) :=
    process_restricted entryName_sample (by decide) (by decide)
      (show _ = some (Entry.file [0x41] false) by decide +kernel) hPlain hLimits hAdmitted 2 2 _
  have hRun : (sparingSelective.run (.pair "b.c") ⟨.pair "b.c", (), []⟩).1 = .ok ⟨2, 1, 1, 1⟩ := by
    have hStart : sparingSelective.run (.pair "b.c") ⟨.pair "b.c", (), []⟩ =
        sparingSelective.runFrom 2 (.initial 2) 1
          [(Job.sample "b.c").command, (Job.sample "a.c").command] ⟨.pair "b.c", (), []⟩ := rfl
    rw [hStart, runFrom_of_ok hFirst, runFrom_of_ok (Prod.ext hSecond rfl)]
    rfl
  exact ⟨hRun, run_accounts _ (.pair "b.c") (.pair "b.c") () hRun⟩

end Pipeline

end CallbackWeave

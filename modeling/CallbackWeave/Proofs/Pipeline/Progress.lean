import CallbackWeave.Proofs.Pipeline.Courses
import CallbackWeave.Proofs.Pipeline.Skipped

/-!
The events of a run that announces its stages. They are those of one unit after another, with the
stages of its outcome; each call stands behind the event of its own stage, and behind the event of
a stage with a program stands the call. Only where no compiler can be called, since not exactly one
token names the source, does an event of such a stage stand alone, and then it is the last one.
-/

namespace CallbackWeave

theorem CallRecord.happening_injective : Function.Injective CallRecord.happening := by
  intro call other hSame
  cases call
  cases other
  simpa [happening] using hSame

/-- What stands in lists one after another stands in one of them. -/
theorem exists_split_of_flatMap {α β : Type} {f : α → List β} {as : List α} {b : β}
    {before rest : List β} (hAll : as.flatMap f = before ++ b :: rest) :
    ∃ front a later inner behind, as = front ++ a :: later ∧ f a = inner ++ b :: behind ∧
      before = front.flatMap f ++ inner ∧ rest = behind ++ later.flatMap f := by
  induction as generalizing before with
  | nil => simp at hAll
  | cons a as ih =>
      have hLater : ∀ more, before = f a ++ more → as.flatMap f = more ++ b :: rest →
          ∃ front found later inner behind, a :: as = front ++ found :: later ∧
            f found = inner ++ b :: behind ∧ before = front.flatMap f ++ inner ∧
            rest = behind ++ later.flatMap f := by
        rintro more rfl hMore
        obtain ⟨front, found, later, inner, behind, rfl, hFound, rfl, hRest⟩ := ih hMore
        exact ⟨a :: front, found, later, inner, behind, rfl, hFound, by simp, hRest⟩
      rw [List.flatMap_cons] at hAll
      rcases List.append_eq_append_iff.mp hAll with ⟨more, hBefore, hMore⟩ | ⟨own, hOwn, hMore⟩
      · exact hLater more hBefore hMore
      · cases own with
        | nil => exact hLater [] (by simpa using hOwn.symm) hMore.symm
        | cons first behind =>
            obtain ⟨rfl, rfl⟩ := List.cons.inj hMore
            exact ⟨[], a, as, before, behind, rfl, hOwn, rfl, rfl⟩

namespace Pipeline

variable {σ : Type} {p : Pipeline σ} {job : Job}

/-- Where a stage is not the last one of a unit, the unit has got through it; with the last one it
may have failed. -/
theorem Goes.passes_or_fails {c : CompileCommand} {front later : List Passage} {passage : Passage}
    {result : Except Failure Outcome} (h : p.Goes c (front ++ passage :: later) result) :
    p.Passes c passage ∨
      later = [] ∧ ∃ failure, result = .error failure ∧ p.Fails c passage failure := by
  generalize hAll : front ++ passage :: later = passages at h
  cases h with
  | completes admitted stages passed => exact Or.inl (passed passage (by simp [← hAll]))
  | @breaks earlier last failure copied admitted stages passed fails =>
      rcases List.eq_nil_or_concat later with rfl | ⟨others, final, rfl⟩
      · obtain ⟨-, hLast⟩ := List.append_inj' hAll rfl
        obtain rfl : passage = last := by simpa using hLast
        exact Or.inr ⟨rfl, failure, rfl, fails⟩
      · rw [List.concat_eq_append, ← List.cons_append, ← List.append_assoc] at hAll
        obtain ⟨rfl, -⟩ := List.append_inj' hAll rfl
        exact Or.inl (passed passage (by simp))
  | unusable => simp at hAll

/-- The call that is made in a stage is that of the stage and the unit. -/
theorem Goes.serves {c : CompileCommand} {front later : List Passage} {passage : Passage}
    {call : CallRecord} {result : Except Failure Outcome}
    (h : p.Goes c (front ++ passage :: later) result) (hCall : passage.call? = some call) :
    p.Serves c passage.stage call.invocation := by
  rcases h.passes_or_fails with hPasses | ⟨-, failure, -, hFails⟩
  · exact hPasses.serves call hCall
  · cases hFails with
    | exit serves => exact Option.some.inj hCall ▸ serves
    | runner serves => exact Option.some.inj hCall ▸ serves
    | source => cases hCall
    | copy => cases hCall

/-- Of a stage with a program there is a call, unless no token can be told to name the source. -/
theorem Goes.calls_or_unmatched {c : CompileCommand} {front later : List Passage}
    {passage : Passage} {result : Except Failure Outcome}
    (h : p.Goes c (front ++ passage :: later) result)
    (hProgram : passage.stage.callsProgram = true) :
    (∃ call, passage.call? = some call) ∨ passage = ⟨.expand, none⟩ ∧ later = [] ∧
      ∃ count, count ≠ 1 ∧ result = .error (.unmatchedSource c.sourcePath count) := by
  rcases h.passes_or_fails with hPasses | ⟨rfl, failure, rfl, hFails⟩
  · exact Or.inl (Option.isSome_iff_exists.mp (hPasses.called.trans hProgram))
  · cases hFails with
    | exit => exact Or.inl ⟨_, rfl⟩
    | runner => exact Or.inl ⟨_, rfl⟩
    | source several => exact Or.inr ⟨rfl, rfl, _, several, rfl⟩
    | copy => cases hProgram

section

variable (hAnnounces : p.announces = true)

include hAnnounces

/-- Of a stage that is announced, its event is recorded first. -/
theorem told_of_announces (job : Job) (passage : Passage) :
    p.told job passage = .event (job.event passage.stage) ::
      (passage.call?.map CallRecord.happening).toList := by
  rw [told, entered, if_pos hAnnounces]
  rfl

/-- An event of a stage is the first that is recorded of it. -/
theorem told_split_event {passage : Passage} {event : Event} {inner behind : List Happening}
    (hTold : p.told job passage = inner ++ .event event :: behind) :
    event = job.event passage.stage ∧ inner = [] ∧
      behind = (passage.call?.map CallRecord.happening).toList := by
  obtain ⟨stage, call?⟩ := passage
  rw [told_of_announces hAnnounces] at hTold
  cases inner with
  | nil => simpa [eq_comm] using hTold
  | cons first more => cases call? <;> cases more <;> simp [CallRecord.happening] at hTold

/-- The call of a stage stands directly behind its event. -/
theorem told_split_call {passage : Passage} {call : CallRecord} {inner behind : List Happening}
    (hTold : p.told job passage = inner ++ call.happening :: behind) :
    passage.call? = some call ∧ inner = [.event (job.event passage.stage)] := by
  obtain ⟨stage, call?⟩ := passage
  rw [told_of_announces hAnnounces] at hTold
  cases inner with
  | nil => simp [CallRecord.happening] at hTold
  | cons first more =>
      obtain ⟨rfl, hMore⟩ := List.cons.inj hTold
      cases call? with
      | none => simp at hMore
      | some own =>
          cases more with
          | nil =>
              obtain ⟨hOwn, -⟩ := List.cons.inj hMore
              rw [CallRecord.happening_injective hOwn]
              exact ⟨rfl, rfl⟩
          | cons second more => simp at hMore

theorem events_told (job : Job) (passages : List Passage) :
    Happening.events (passages.flatMap (p.told job)) =
      passages.map fun passage => job.event passage.stage := by
  induction passages with
  | nil => rfl
  | cons passage others ih =>
      obtain ⟨stage, call?⟩ := passage
      rw [List.flatMap_cons, Happening.events_append, ih, told_of_announces hAnnounces]
      cases call? <;> rfl

end

/-- The events of a unit that does not fail are those of the stages of its outcome. -/
theorem Goes.events_eq {passages : List Passage} {outcome : Outcome}
    (h : p.Goes job.command passages (.ok outcome)) (hAnnounces : p.announces = true) :
    p.allowlist.admits job.command.sourcePath = decide (outcome ≠ .skipped) ∧
      Happening.events (passages.flatMap (p.told job)) = outcome.stages.map job.event := by
  cases h with
  | completes admitted stages passed =>
      refine ⟨admitted, ?_⟩
      rw [events_told hAnnounces, ← stages, List.map_map]
      rfl

/-- The only event of a unit that is not admitted is that it is left out. -/
theorem Goes.events_of_skipped {passages : List Passage} {result : Except Failure Outcome}
    (h : p.Goes job.command passages result) (hAnnounces : p.announces = true)
    (hSkipped : p.allowlist.admits job.command.sourcePath = false) :
    result = .ok .skipped ∧
      Happening.events (passages.flatMap (p.told job)) = [job.event .select] := by
  cases result with
  | error failure =>
      cases h with
      | breaks copied admitted =>
          rw [hSkipped] at admitted
          cases admitted
      | unusable admitted =>
          rw [hSkipped] at admitted
          cases admitted
  | ok outcome =>
      obtain ⟨hAdmitted, hEvents⟩ := h.events_eq hAnnounces
      obtain rfl : outcome = .skipped := by simpa [hSkipped] using hAdmitted
      exact ⟨rfl, hEvents⟩

/-- A unit that fails has recorded nothing, or last of all the stage in which it fails. -/
theorem Goes.failed {passages : List Passage} {failure : Failure}
    (h : p.Goes job.command passages (.error failure)) (hAnnounces : p.announces = true) :
    (passages.flatMap (p.told job) = [] ∧ ∃ fault,
        CompileDatabase.commandFault? job.command = some fault ∧
        failure = .malformedDatabase job.command.file (.command fault)) ∨
      ∃ before stage call?, passages.flatMap (p.told job) =
          before ++ .event (job.event stage) :: (call?.map CallRecord.happening).toList ∧
        p.Fails job.command ⟨stage, call?⟩ failure := by
  cases h with
  | unusable admitted fault_eq => exact Or.inl ⟨rfl, _, fault_eq, rfl⟩
  | @breaks earlier last failure copied admitted stages passed fails =>
      obtain ⟨stage, call?⟩ := last
      refine Or.inr ⟨earlier.flatMap (p.told job), stage, call?, ?_, fails⟩
      rw [List.flatMap_append, List.flatMap_singleton, told_of_announces hAnnounces]

namespace Covers

variable {total current : Nat} {report : Report} {w : World σ} {commands : List CompileCommand}
  {courses : List (Course σ)} {result : Except Failure Report}

/-- The courses of a run are those of units, with what the work on each comes to. -/
theorem goes (h : p.Covers total current report w commands courses result) :
    ∀ course ∈ courses, p.Goes course.job.command course.passages
      (p.process course.job course.start).1 := by
  induction h with
  | finished => simp
  | next work recorded unit run ih =>
      refine List.forall_mem_cons.mpr ⟨?_, ih⟩
      rw [work]
      exact unit
  | stopped work recorded unit =>
      refine List.forall_mem_singleton.mpr ?_
      rw [work]
      exact unit

/-- The units are numbered, and each of them is an entry of the database. -/
theorem numbered (h : p.Covers total current report w commands courses result) :
    ∀ (i : Nat) (course : Course σ), courses[i]? = some course →
      ∃ c, commands[i]? = some c ∧ course.job = ⟨current + i, total, c⟩ := by
  induction h with
  | finished => simp
  | @next current report w left c rest passages outcome courses result work recorded unit run ih =>
      intro i course hCourse
      cases i with
      | zero =>
          obtain rfl := Option.some.inj hCourse
          exact ⟨c, rfl, rfl⟩
      | succ i =>
          obtain ⟨other, hOther, hJob⟩ := ih i course hCourse
          exact ⟨other, hOther, by rw [hJob, Nat.add_right_comm, Nat.add_assoc]⟩
  | @stopped current report w left c rest passages failure work recorded unit =>
      intro i course hCourse
      cases i with
      | zero =>
          obtain rfl := Option.some.inj hCourse
          exact ⟨c, rfl, rfl⟩
      | succ i => simp at hCourse

/-- If a run fails, the last unit on which it has worked has failed with the same. -/
theorem exists_failing {failure : Failure}
    (h : p.Covers total current report w commands courses (.error failure)) :
    ∃ course, courses.getLast? = some course ∧
      (p.process course.job course.start).1 = .error failure := by
  generalize hResult : Except.error failure = result at h
  induction h with
  | finished => cases hResult
  | next work recorded unit run ih =>
      obtain ⟨course, hLast, hFails⟩ := ih hResult
      exact ⟨course, by simp [List.getLast?_cons, hLast], hFails⟩
  | stopped work recorded unit =>
      obtain rfl := Except.error.inj hResult
      exact ⟨_, List.getLast?_singleton, by rw [work]⟩

/-- If a unit fails, the run fails with the same, and works on no unit behind it. -/
theorem stops {failure : Failure} {front later : List (Course σ)} {course : Course σ}
    (h : p.Covers total current report w commands (front ++ course :: later) result)
    (hFails : (p.process course.job course.start).1 = .error failure) :
    later = [] ∧ result = .error failure := by
  generalize hAll : front ++ course :: later = courses at h
  induction h generalizing front with
  | finished => simp at hAll
  | next work recorded unit run ih =>
      cases front with
      | nil =>
          obtain ⟨rfl, -⟩ := List.cons.inj hAll
          rw [work] at hFails
          cases hFails
      | cons first front => exact ih (List.cons.inj hAll).2
  | stopped work recorded unit =>
      cases front with
      | nil =>
          obtain ⟨rfl, rfl⟩ := List.cons.inj hAll
          rw [work] at hFails
          obtain rfl := Except.error.inj hFails
          exact ⟨rfl, rfl⟩
      | cons first front => simp at hAll

end Covers

/-- The events of a unit are all its own. -/
theorem event_eq_of_mem_tale (hAnnounces : p.announces = true) {course : Course σ} {event : Event}
    (hEvent : event ∈ Happening.events (p.tale course)) : event = course.job.event event.stage := by
  rw [tale, events_told hAnnounces] at hEvent
  obtain ⟨passage, -, rfl⟩ := List.mem_map.mp hEvent
  rfl

/-- The events of a run stand in the order of its units. -/
theorem Covers.ordered {total current : Nat} {report : Report} {w : World σ}
    {commands : List CompileCommand} {courses : List (Course σ)} {result : Except Failure Report}
    (h : p.Covers total current report w commands courses result)
    (hAnnounces : p.announces = true) :
    (Happening.events (courses.flatMap p.tale)).Pairwise
      fun event later => event.current ≤ later.current := by
  have hCurrent : ∀ (course : Course σ), ∀ event ∈ Happening.events (p.tale course),
      event.current = course.job.current := by
    intro course event hEvent
    rw [event_eq_of_mem_tale hAnnounces hEvent]
    rfl
  have hEvents : Happening.events (courses.flatMap p.tale) =
      courses.flatMap fun course => Happening.events (p.tale course) := List.filterMap_flatMap
  rw [hEvents]
  refine List.pairwise_flatMap.mpr ⟨fun course _ => ?_, ?_⟩
  · refine List.pairwise_of_forall_mem_list fun event hEvent later hLater => ?_
    exact Nat.le_of_eq ((hCurrent course event hEvent).trans (hCurrent course later hLater).symm)
  · refine List.pairwise_iff_getElem.mpr fun i j hi hj hBefore event hEvent later hLater => ?_
    obtain ⟨c, -, hFirst⟩ := h.numbered i courses[i] (List.getElem?_eq_getElem hi)
    obtain ⟨other, -, hSecond⟩ := h.numbered j courses[j] (List.getElem?_eq_getElem hj)
    rw [hCurrent _ event hEvent, hCurrent _ later hLater, hFirst, hSecond]
    exact Nat.add_le_add_left (Nat.le_of_lt hBefore) current

/-- What happens in a run is recorded of one stage of one of its units. -/
theorem exists_told_of_split {courses : List (Course σ)} {happening : Happening}
    {before rest : List Happening}
    (hSplit : courses.flatMap p.tale = before ++ happening :: rest) :
    ∃ earlier course later front passage others own behind,
      courses = earlier ++ course :: later ∧ course.passages = front ++ passage :: others ∧
      p.told course.job passage = own ++ happening :: behind ∧
      before = earlier.flatMap p.tale ++ front.flatMap (p.told course.job) ++ own ∧
      rest = behind ++ others.flatMap (p.told course.job) ++ later.flatMap p.tale := by
  obtain ⟨earlier, course, later, inner, behind, hCourses, hCourse, rfl, rfl⟩ :=
    exists_split_of_flatMap hSplit
  obtain ⟨front, passage, others, own, after, hPassages, hTold, rfl, rfl⟩ :=
    exists_split_of_flatMap hCourse
  exact ⟨earlier, course, later, front, passage, others, own, after, hCourses, hPassages, hTold,
    (List.append_assoc ..).symm, rfl⟩

/-- What is recorded of a stage stands in what is recorded of its unit. -/
theorem told_infix_tale {course : Course σ} {front others : List Passage} {passage : Passage}
    (hPassages : course.passages = front ++ passage :: others) :
    p.told course.job passage <:+: p.tale course :=
  ⟨front.flatMap (p.told course.job), others.flatMap (p.told course.job), by
    simp [tale, hPassages]⟩

section

variable {total current : Nat} {report : Report} {w : World σ} {commands : List CompileCommand}
  {courses : List (Course σ)} {result : Except Failure Report} {before rest : List Happening}

/-- In a run that announces its stages, the event of its stage and unit stands directly before each
call. -/
theorem Covers.preceded (h : p.Covers total current report w commands courses result)
    (hAnnounces : p.announces = true) {call : CallRecord}
    (hSplit : courses.flatMap p.tale = before ++ call.happening :: rest) :
    ∃ course ∈ courses, ∃ earlier,
      before = earlier ++ [.event (course.job.event call.invocation.stage)] ∧
      [.event (course.job.event call.invocation.stage), call.happening] <:+: p.tale course ∧
      p.Serves course.job.command call.invocation.stage call.invocation := by
  obtain ⟨earlier, course, later, front, passage, others, own, behind, rfl, hPassages, hTold, rfl,
    -⟩ := exists_told_of_split hSplit
  obtain ⟨hCall, rfl⟩ := told_split_call hAnnounces hTold
  have hGoes := h.goes course (by simp)
  rw [hPassages] at hGoes
  have hServes := hGoes.serves hCall
  have hInfix := told_infix_tale (p := p) hPassages
  rw [told_of_announces hAnnounces, hCall] at hInfix
  rw [hServes.stage_eq]
  exact ⟨course, by simp, _, rfl, hInfix, hServes⟩

/-- In such a run the call of its stage and unit stands directly behind each event of a stage with a
program, unless the run ends there since not exactly one token names the source. -/
theorem Covers.followed (h : p.Covers total current report w commands courses result)
    (hAnnounces : p.announces = true) {event : Event}
    (hSplit : courses.flatMap p.tale = before ++ .event event :: rest)
    (hProgram : event.stage.callsProgram = true) :
    ∃ course ∈ courses, event = course.job.event event.stage ∧
      ((∃ (call : CallRecord) (later : List Happening), rest = call.happening :: later ∧
          [.event event, call.happening] <:+: p.tale course ∧
          p.Serves course.job.command event.stage call.invocation) ∨
        event.stage = .expand ∧ rest = [] ∧ ∃ count, count ≠ 1 ∧
          result = .error (.unmatchedSource course.job.command.sourcePath count)) := by
  obtain ⟨earlier, course, later, front, passage, others, own, behind, rfl, hPassages, hTold, -,
    rfl⟩ := exists_told_of_split hSplit
  obtain ⟨rfl, rfl, rfl⟩ := told_split_event hAnnounces hTold
  have hGoes := h.goes course (by simp)
  rw [hPassages] at hGoes
  refine ⟨course, by simp, rfl, ?_⟩
  rcases hGoes.calls_or_unmatched hProgram with
    ⟨call, hCall⟩ | ⟨rfl, rfl, count, hSeveral, hFails⟩
  · have hInfix := told_infix_tale (p := p) hPassages
    rw [told_of_announces hAnnounces, hCall] at hInfix
    rw [hCall]
    exact Or.inl ⟨call, _, rfl, hInfix, hGoes.serves hCall⟩
  · obtain ⟨rfl, hResult⟩ := h.stops hFails
    exact Or.inr ⟨rfl, rfl, count, hSeveral, hResult⟩

/-- In such a run nothing but the call of the failing stage follows the event of this stage. -/
theorem Covers.failed {failure : Failure}
    (h : p.Covers total current report w commands courses (.error failure))
    (hAnnounces : p.announces = true) :
    ∃ course, courses.getLast? = some course ∧
      (p.process course.job course.start).1 = .error failure ∧
      ((p.tale course = [] ∧ ∃ fault,
          CompileDatabase.commandFault? course.job.command = some fault ∧
          failure = .malformedDatabase course.job.command.file (.command fault)) ∨
        ∃ before stage call?, courses.flatMap p.tale =
            before ++ .event (course.job.event stage) ::
              (call?.map CallRecord.happening).toList ∧
          p.Fails course.job.command ⟨stage, call?⟩ failure) := by
  obtain ⟨course, hLast, hFails⟩ := h.exists_failing
  obtain ⟨earlier, rfl⟩ := List.getLast?_eq_some_iff.mp hLast
  have hGoes := h.goes course (by simp)
  rw [hFails] at hGoes
  refine ⟨course, hLast, hFails, (hGoes.failed hAnnounces).imp_right ?_⟩
  rintro ⟨before, stage, call?, hTold, hFails⟩
  refine ⟨earlier.flatMap p.tale ++ before, stage, call?, ?_, hFails⟩
  rw [List.flatMap_append, List.flatMap_singleton, tale, hTold, List.append_assoc]

end

/-- The events of a run mirror it. The courses tell which units it has worked on, from which worlds
on, and what is recorded of each of them. -/
structure Mirrors (p : Pipeline σ) (commands : List CompileCommand) (start : World σ)
    (courses : List (Course σ)) (trace : List Happening) (result : Except Failure Report) :
    Prop where
  units : p.Covers commands.length 1 (.initial commands.length) start commands courses result
  trace_eq : trace = courses.flatMap p.tale
  /-- The units are the entries of the database, by their numbers. -/
  numbered : ∀ (i : Nat) (course : Course σ), courses[i]? = some course →
    ∃ c, commands[i]? = some c ∧ course.job = ⟨i + 1, commands.length, c⟩
  /-- Each event tells the number, the total and the source of its unit. -/
  own : ∀ course ∈ courses, ∀ event ∈ Happening.events (p.tale course),
    event = ⟨event.stage, course.job.current, course.job.total, course.job.command.sourcePath⟩
  /-- A unit that is not admitted is skipped. -/
  skipped : ∀ course ∈ courses, p.allowlist.admits course.job.command.sourcePath = false →
    (p.process course.job course.start).1 = .ok .skipped ∧
      Happening.events (p.tale course) = [course.job.event .select]
  /-- The events of a unit that does not fail are those of its outcome. -/
  completed : ∀ course ∈ courses, ∀ outcome,
    (p.process course.job course.start).1 = .ok outcome →
      p.allowlist.admits course.job.command.sourcePath = decide (outcome ≠ .skipped) ∧
        Happening.events (p.tale course) = outcome.stages.map course.job.event
  ordered : (Happening.events trace).Pairwise fun event later => event.current ≤ later.current
  /-- Directly before each call stands the event of its stage and unit. -/
  preceded : ∀ before (call : CallRecord) rest, trace = before ++ call.happening :: rest →
    ∃ course ∈ courses, ∃ earlier,
      before = earlier ++ [.event (course.job.event call.invocation.stage)] ∧
      [.event (course.job.event call.invocation.stage), call.happening] <:+: p.tale course ∧
      p.Serves course.job.command call.invocation.stage call.invocation
  /-- Directly behind each event of a stage with a program stands the call of its stage and unit.
  The only exception is the expansion of a unit whose source is named by no token or by several;
  this ends the run. -/
  followed : ∀ before event rest, trace = before ++ .event event :: rest →
    event.stage.callsProgram = true → ∃ course ∈ courses, event = course.job.event event.stage ∧
      ((∃ (call : CallRecord) (later : List Happening), rest = call.happening :: later ∧
          [.event event, call.happening] <:+: p.tale course ∧
          p.Serves course.job.command event.stage call.invocation) ∨
        event.stage = .expand ∧ rest = [] ∧ ∃ count, count ≠ 1 ∧
          result = .error (.unmatchedSource course.job.command.sourcePath count))
  /-- If the run fails, the event of the failing stage is the last one, or the failing unit has no
  event since its command has no usable tokens. -/
  failed : ∀ failure, result = .error failure → ∃ course, courses.getLast? = some course ∧
    (p.process course.job course.start).1 = .error failure ∧
    ((p.tale course = [] ∧ ∃ fault,
        CompileDatabase.commandFault? course.job.command = some fault ∧
        failure = .malformedDatabase course.job.command.file (.command fault)) ∨
      ∃ before stage call?, trace =
          before ++ .event (course.job.event stage) :: (call?.map CallRecord.happening).toList ∧
        p.Fails course.job.command ⟨stage, call?⟩ failure)

/-- A run that announces its stages is mirrored by its events. -/
theorem run_mirrored (p : Pipeline σ) (database : CompileDatabase) (tree : FileTree) (state : σ)
    (hAnnounces : p.announces = true) :
    ∃ courses, p.Mirrors database.commands ⟨tree, state, []⟩ courses
      (p.run database ⟨tree, state, []⟩).2.trace (p.run database ⟨tree, state, []⟩).1 := by
  obtain ⟨courses, hTrace, hCovers⟩ := p.covers_run database tree state
  refine ⟨courses, ?_⟩
  rw [hTrace]
  constructor
  case units => exact hCovers
  case trace_eq => rfl
  case numbered =>
    intro i course hCourse
    rw [Nat.add_comm i 1]
    exact hCovers.numbered i course hCourse
  case own => exact fun course _ event hEvent => event_eq_of_mem_tale hAnnounces hEvent
  case skipped =>
    exact fun course hMem hSkipped =>
      (hCovers.goes course hMem).events_of_skipped hAnnounces hSkipped
  case completed =>
    intro course hMem outcome hOutcome
    have hGoes := hCovers.goes course hMem
    rw [hOutcome] at hGoes
    exact hGoes.events_eq hAnnounces
  case ordered => exact hCovers.ordered hAnnounces
  case preceded => exact fun before call rest hSplit => hCovers.preceded hAnnounces hSplit
  case followed =>
    exact fun before event rest hSplit hProgram => hCovers.followed hAnnounces hSplit hProgram
  case failed =>
    intro failure hFailure
    rw [hFailure] at hCovers
    exact hCovers.failed hAnnounces

/-- A run that skips one unit and fails with the first call of the other one. -/
theorem run_mirrored_idle :
    idle.announces = true ∧
    Happening.events (idle.run (.pair "b.c") ⟨.pair "b.c", (), []⟩).2.trace =
      [⟨.select, 1, 2, ⟨"/work/b.c"⟩⟩, ⟨.annotate, 2, 2, ⟨"/work/a.c"⟩⟩] ∧
    ∃ courses, idle.Mirrors (CompileDatabase.pair "b.c").commands ⟨.pair "b.c", (), []⟩ courses
      (idle.run (.pair "b.c") ⟨.pair "b.c", (), []⟩).2.trace
      (idle.run (.pair "b.c") ⟨.pair "b.c", (), []⟩).1 :=
  ⟨rfl, by decide +kernel, run_mirrored idle (.pair "b.c") (.pair "b.c") () rfl⟩

end Pipeline

end CallbackWeave

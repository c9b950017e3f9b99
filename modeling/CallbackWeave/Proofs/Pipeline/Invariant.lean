import CallbackWeave.Proofs.Pipeline.Protocol

/-!
Properties that hold throughout a run. All that a unit does to the world is to record events, to
clear its temporary files, to copy its source, and to make its calls. A property that each of these
keeps is kept by the unit, however it ends, and a property that every unit keeps is kept by the run.
-/

namespace CallbackWeave.Pipeline

variable {σ : Type}

/-- The calls that a unit makes in a tree. What is left of its command for the expanding call is a
matter of the tree that this call finds. -/
inductive Issues (p : Pipeline σ) (c : CompileCommand) (view : CommandView) (found : FileTree) :
    Invocation → Prop where
  | annotate : Issues p c view found (p.annotateCall c view)
  | expand {tokens : List String} (compiler : view.compilerOnly (p.files found) = .ok tokens) :
      Issues p c view found (p.expandCall c view (tokens.drop 1))
  | merge : Issues p c view found (p.mergeCall c)
  | instrument : Issues p c view found (p.instrumentCall c view)

theorem Issues.makes {p : Pipeline σ} {c : CompileCommand} {view : CommandView} {found : FileTree}
    {i : Invocation} (h : p.Issues c view found i) : p.Makes c view i := by
  cases h with
  | annotate => exact .annotate
  | expand compiler => exact .expand _
  | merge => exact .merge
  | instrument => exact .instrument

/-- A property of the world that everything keeps which the unit of a command can do. -/
structure UnitInvariant (p : Pipeline σ) (c : CompileCommand) (invariant : World σ → Prop) :
    Prop where
  event : ∀ w event, invariant w → invariant { w with trace := w.trace ++ [.event event] }
  clear : ∀ w, invariant w → invariant { w with tree := p.clear c w.tree }
  copy : ∀ w tree, invariant w →
    (p.files w.tree).copy c.sourcePath (Artifacts.ofCommand c).merged = .ok tree →
      invariant { w with tree := tree }
  call : ∀ w view i, CommandView.ofCommand c = .ok view → p.Issues c view w.tree i → invariant w →
    invariant ⟨(p.runner w.state i w.tree).2.2, (p.runner w.state i w.tree).2.1,
      w.trace ++ [.call i (p.runner w.state i w.tree).1 w.tree (p.runner w.state i w.tree).2.2]⟩

namespace UnitInvariant

variable {p : Pipeline σ} {job : Job} {view : CommandView} {invariant : World σ → Prop}
  (h : p.UnitInvariant job.command invariant)

include h

/-- A call keeps the invariant if it is one that the unit makes in the tree that the call finds. -/
theorem ends_invoke (hView : CommandView.ofCommand job.command = .ok view) (i : Invocation) :
    Action.Ends (fun w => p.Issues job.command view w.tree i ∧ invariant w) (p.invoke job i)
      fun _ => invariant := by
  rintro w ⟨hIssued, hStart⟩
  rw [invoke_eq]
  exact h.call w view i hView hIssued hStart

theorem keeps_invoke (hView : CommandView.ofCommand job.command = .ok view) {i : Invocation}
    (hIssued : ∀ found, p.Issues job.command view found i) :
    Action.Keeps invariant (p.invoke job i) :=
  (h.ends_invoke hView i).weaken (fun _ hStart => ⟨hIssued _, hStart⟩) fun _ _ hEnd => hEnd

/-- Both calls that make the merged file keep the invariant, and so does what stands between them.
-/
theorem keeps_expandAndMerge (hView : CommandView.ofCommand job.command = .ok view) :
    Action.Keeps invariant (p.expandAndMerge job view) := by
  refine (keeps_announce p job .expand h.event).bind fun _ => Action.Ends.tree fun tree => ?_
  have hTokens : Action.Ends (fun w : World σ => w.tree = tree ∧ invariant w)
      (Action.ofExcept (view.compilerOnly (p.files tree))) fun result w =>
        view.compilerOnly (p.files tree) = result ∧ w.tree = tree ∧ invariant w :=
    fun w hStart => ⟨rfl, hStart⟩
  refine hTokens.bind (fun tokens => ?_) fun _ _ hFailed => hFailed.2.2
  have hExpand : Action.Ends
      (fun w => view.compilerOnly (p.files tree) = .ok tokens ∧ w.tree = tree ∧ invariant w)
      (p.invoke job (p.expandCall job.command view (tokens.drop 1))) fun _ => invariant := by
    refine (h.ends_invoke hView _).weaken (fun w hStart => ?_) fun _ _ hEnd => hEnd
    obtain ⟨hCompiler, rfl, hStart⟩ := hStart
    exact ⟨.expand hCompiler, hStart⟩
  exact hExpand.andThen (fun _ hEnd => hEnd) fun _ =>
    (keeps_announce p job .merge h.event).bind fun _ => h.keeps_invoke hView fun _ => .merge

/-- The copy in place of these calls keeps the invariant, whether it is made or refused. -/
theorem keeps_copyThrough : Action.Keeps invariant (p.copyThrough job) := by
  refine (keeps_announce p job .copyThrough h.event).bind fun _ w hStart => ?_
  simp only [bind, Action.andThen, Action.tree]
  cases hCopy : (p.files w.tree).copy job.command.sourcePath
      (Artifacts.ofCommand job.command).merged with
  | ok tree => exact h.copy w tree hStart hCopy
  | error cause => exact hStart

/-- An admitted unit keeps the invariant, whichever of its stages is the last. -/
theorem keeps_stages (hView : CommandView.ofCommand job.command = .ok view) :
    Action.Keeps invariant (p.stages job view) := by
  have hAnnounce : ∀ stage, Action.Keeps invariant (p.announce job stage) :=
    fun stage => keeps_announce p job stage h.event
  have hClear : Action.Keeps invariant (Action.change (p.clear job.command)) :=
    Action.Keeps.change h.clear
  have hMerged : ∀ annotated, Action.Keeps invariant (p.provideMerged job view annotated) := by
    intro annotated
    cases annotated with
    | true => exact h.keeps_expandAndMerge hView
    | false => exact h.keeps_copyThrough
  have hConclude : ∀ annotated, Action.Keeps invariant (p.conclude job view annotated) :=
    fun annotated => (hAnnounce .instrument).bind fun _ =>
      (h.keeps_invoke hView fun _ => .instrument).bind fun _ => (hAnnounce .cleanup).bind fun _ =>
        hClear.bind fun _ => Action.Keeps.pure _
  exact hClear.bind fun _ => (hAnnounce .annotate).bind fun _ =>
    (h.keeps_invoke hView fun _ => .annotate).bind fun _ => Action.Keeps.tree.bind fun _ =>
      (hMerged _).bind fun _ => hConclude _

end UnitInvariant

/-- However a unit ends, it has kept what all of its parts keep. A unit that is not admitted has
recorded events at the most. -/
theorem keeps_process {p : Pipeline σ} {job : Job} {invariant : World σ → Prop}
    (hEvent : ∀ w event, invariant w → invariant { w with trace := w.trace ++ [.event event] })
    (hUnit : p.allowlist.admits job.command.sourcePath = true →
      p.UnitInvariant job.command invariant) : Action.Keeps invariant (p.process job) := by
  unfold process
  split
  next hAdmitted =>
    have hView : Action.Ends invariant (Action.ofExcept (CommandView.ofCommand job.command))
        fun result w => CommandView.ofCommand job.command = result ∧ invariant w :=
      fun w hStart => ⟨rfl, hStart⟩
    refine hView.bind (fun view w hStart => ?_) fun failure w hStart => hStart.2
    exact (hUnit hAdmitted).clear _ ((hUnit hAdmitted).keeps_stages hStart.1 w hStart.2)
  next => exact (keeps_announce p job .select hEvent).bind fun _ => Action.Keeps.pure _

/-- A run keeps what every one of its units keeps, whether it comes to its end or not. -/
theorem keeps_runFrom {p : Pipeline σ} {invariant : World σ → Prop}
    {commands : List CompileCommand}
    (hUnits : ∀ job : Job, job.command ∈ commands → Action.Keeps invariant (p.process job))
    (total current : Nat) (report : Report) :
    Action.Keeps invariant (p.runFrom total report current commands) := by
  induction commands generalizing current report with
  | nil => exact Action.Keeps.pure _
  | cons c rest ih =>
      refine Action.Keeps.bind (hUnits ⟨current, total, c⟩ List.mem_cons_self) fun outcome => ?_
      exact ih (fun job hJob => hUnits job (List.mem_cons_of_mem _ hJob)) _ _

end CallbackWeave.Pipeline

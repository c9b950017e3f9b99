import CallbackWeave.Pipeline.Unit

/-!
Statements about parts of a run. `Action.Ends` says in which worlds a part ends, with which result,
from any of the worlds in which it may begin. A failure is a result here, so that a statement covers
every way out of a part, and a runner may do whatever is not ruled out.
-/

namespace CallbackWeave

namespace Action

variable {σ α β : Type}

/-- From every world with one property, an action ends with a result and in a world that have
another one together. -/
def Ends (before : World σ → Prop) (action : Action σ α)
    (after : Except Failure α → World σ → Prop) : Prop :=
  ∀ w, before w → after (action w).1 (action w).2

namespace Ends

variable {before : World σ → Prop} {after : Except Failure α → World σ → Prop}

/-- More may be known before an action, and less be asked of its end. -/
theorem weaken {stronger : World σ → Prop} {weaker : Except Failure α → World σ → Prop}
    {action : Action σ α} (h : Ends before action after) (hBefore : ∀ w, stronger w → before w)
    (hAfter : ∀ result w, after result w → weaker result w) : Ends stronger action weaker :=
  fun w hStart => hAfter _ _ (h w (hBefore w hStart))

/-- One part after another. What the first ends with if it fails is what both end with. -/
theorem bind {between : Except Failure α → World σ → Prop}
    {last : Except Failure β → World σ → Prop} {first : Action σ α} {next : α → Action σ β}
    (hFirst : Ends before first between) (hNext : ∀ a, Ends (between (.ok a)) (next a) last)
    (hFail : ∀ failure w, between (.error failure) w → last (.error failure) w) :
    Ends before (first >>= next) last := by
  intro w hStart
  have hBetween := hFirst w hStart
  change last (andThen first next w).1 (andThen first next w).2
  unfold andThen
  rcases hEnd : first w with ⟨_ | a, middle⟩ <;> rw [hEnd] at hBetween
  · exact hFail _ middle hBetween
  · exact hNext a middle hBetween

theorem pure {a : α} (h : ∀ w, before w → after (.ok a) w) : Ends before (Action.pure a) after :=
  h

theorem change {f : FileTree → FileTree} {after : Except Failure Unit → World σ → Prop}
    (h : ∀ w, before w → after (.ok ()) { w with tree := f w.tree }) :
    Ends before (Action.change f) after :=
  h

theorem followedBy {action : Action σ α} {f : FileTree → FileTree}
    (h : Ends before action fun result w => after result { w with tree := f w.tree }) :
    Ends before (action.followedBy f) after :=
  h

/-- What follows the look at the tree begins with the tree it has seen. -/
theorem tree {next : FileTree → Action σ β} {last : Except Failure β → World σ → Prop}
    (hNext : ∀ t, Ends (fun w => w.tree = t ∧ before w) (next t) last) :
    Ends before (Action.tree >>= next) last :=
  fun w hStart => hNext w.tree w ⟨rfl, hStart⟩

/-- One part after another, where nothing is known of the first. -/
theorem followed {last : Except Failure β → World σ → Prop} {first : Action σ α}
    {next : α → Action σ β} (hNext : ∀ a, Ends (fun _ => True) (next a) last)
    (hFail : ∀ failure w, last (.error failure) w) : Ends before (first >>= next) last := by
  have hFirst : Ends before first fun _ _ => True := fun _ _ => trivial
  exact hFirst.bind hNext fun failure w _ => hFail failure w

/-- One part after another, where failing is no different from going on. -/
theorem andThen {middle last : World σ → Prop} {first : Action σ α} {next : α → Action σ β}
    (hFirst : Ends before first fun _ => middle) (hLast : ∀ w, middle w → last w)
    (hNext : ∀ a, Ends middle (next a) fun _ => last) :
    Ends before (first >>= next) fun _ => last :=
  hFirst.bind hNext fun _ => hLast

/-- One part after another, where the first is known to succeed. -/
theorem step {a : α} {middle : World σ → Prop} {last : Except Failure β → World σ → Prop}
    {first : Action σ α} {next : α → Action σ β}
    (hFirst : Ends before first fun result w => result = .ok a ∧ middle w)
    (hNext : Ends middle (next a) last) : Ends before (first >>= next) last := by
  refine hFirst.bind (fun b w hBetween => ?_) fun failure w hBetween => ?_
  · obtain ⟨hSame, hMiddle⟩ := hBetween
    obtain rfl := Except.ok.inj hSame
    exact hNext w hMiddle
  · cases hBetween.1

end Ends

/-- An action keeps a property of the world, whether it fails or not. -/
def Keeps (invariant : World σ → Prop) (action : Action σ α) : Prop :=
  Ends invariant action fun _ => invariant

namespace Keeps

variable {invariant : World σ → Prop}

/-- Actions that keep a property one after another keep it together. -/
theorem bind {first : Action σ α} {next : α → Action σ β} (hFirst : Keeps invariant first)
    (hNext : ∀ a, Keeps invariant (next a)) : Keeps invariant (first >>= next) :=
  Ends.andThen hFirst (fun _ h => h) hNext

theorem pure (a : α) : Keeps invariant (Action.pure a) := fun _ h => h

theorem ofExcept (result : Except Failure α) : Keeps invariant (Action.ofExcept result) :=
  fun _ h => h

theorem tree : Keeps invariant (Action.tree (σ := σ)) := fun _ h => h

theorem change {f : FileTree → FileTree}
    (h : ∀ w, invariant w → invariant { w with tree := f w.tree }) :
    Keeps invariant (Action.change f) :=
  h

end Keeps

end Action

namespace Pipeline

variable {σ : Type}

/-- An announcement succeeds and changes nothing but the record. -/
theorem ends_announce (p : Pipeline σ) (job : Job) (stage : Stage) {invariant : World σ → Prop}
    (hEvent : ∀ w event, invariant w →
      invariant { w with trace := w.trace ++ [.event event] }) :
    Action.Ends invariant (p.announce job stage) fun result w => result = .ok () ∧ invariant w := by
  intro w hStart
  unfold announce
  split
  · exact ⟨rfl, hEvent w _ hStart⟩
  · exact ⟨rfl, hStart⟩

/-- An announcement keeps what the recording of an event keeps. -/
theorem keeps_announce (p : Pipeline σ) (job : Job) (stage : Stage) {invariant : World σ → Prop}
    (hEvent : ∀ w event, invariant w →
      invariant { w with trace := w.trace ++ [.event event] }) :
    Action.Keeps invariant (p.announce job stage) :=
  (ends_announce p job stage hEvent).weaken (fun _ h => h) fun _ _ h => h.2

/-- What a call means for its unit. -/
def verdict (job : Job) (i : Invocation) : Except Failure ExitStatus → Except Failure Unit
  | .error failure => .error failure
  | .ok status =>
    if status.isSuccess then .ok ()
    else .error (.subprocess i.stage job.command.sourcePath status.code)

/-- A call hands the runner its state and the tree, takes both back, and is recorded with what was
found and left. -/
theorem invoke_eq (p : Pipeline σ) (job : Job) (i : Invocation) (w : World σ) :
    p.invoke job i w =
      (verdict job i (p.runner w.state i w.tree).1,
        ⟨(p.runner w.state i w.tree).2.2, (p.runner w.state i w.tree).2.1,
          w.trace ++ [.call i (p.runner w.state i w.tree).1 w.tree
            (p.runner w.state i w.tree).2.2]⟩) := by
  unfold invoke verdict
  simp only [Bind.bind, Action.andThen, Action.call]
  cases (p.runner w.state i w.tree).1 with
  | error failure => rfl
  | ok status =>
      by_cases hStatus : status.isSuccess = true
      · simp [hStatus, Action.pure]
      · simp [hStatus, Action.fail]

/-- An admitted unit goes through its stages, and however these end, its temporary files are cleared
then. -/
theorem process_eq (p : Pipeline σ) {job : Job} {view : CommandView}
    (hAdmitted : p.allowlist.admits job.command.sourcePath = true)
    (hTokens : CommandView.ofCommand job.command = .ok view) (w : World σ) :
    p.process job w = ((p.stages job view w).1,
      { (p.stages job view w).2 with
        tree := p.clear job.command (p.stages job view w).2.tree }) := by
  simp [process, hAdmitted, bind, Action.andThen, Action.ofExcept, hTokens, Action.followedBy]

end Pipeline

end CallbackWeave

import CallbackWeave.Proofs.FileTree.Likeness
import CallbackWeave.Proofs.Pipeline.Actions
import Mathlib.Data.List.Forall2

/-!
Two runs side by side. A runner that goes by what a tree holds cannot tell two trees that are alike,
and neither can the pipeline: a part of a run that begins in two worlds that are alike ends with the
same result and leaves them alike.
-/

namespace CallbackWeave

/-- Two happenings are alike: the same event, or the same call with the same result, which has
found and left trees that are alike. -/
inductive Happening.Alike : Happening → Happening → Prop
  | event (event : Event) : Alike (.event event) (.event event)
  | call (invocation : Invocation) (result : Except Failure ExitStatus)
      {found left otherFound otherLeft : FileTree} (hFound : found ≈ otherFound)
      (hLeft : left ≈ otherLeft) :
      Alike (.call invocation result found left) (.call invocation result otherFound otherLeft)

namespace Happening

variable {trace other : List Happening}

/-- Traces that are alike hold the same calls. -/
theorem calls_eq (h : List.Forall₂ Alike trace other) : calls trace = calls other := by
  unfold calls
  induction h with
  | nil => rfl
  | cons hFirst _ ih => cases hFirst <;> simp [ih]

/-- Traces that are alike hold the same events. -/
theorem events_eq (h : List.Forall₂ Alike trace other) : events trace = events other := by
  unfold events
  induction h with
  | nil => rfl
  | cons hFirst _ ih => cases hFirst <;> simp [ih]

end Happening

variable {σ : Type}

/-- Two worlds are alike. Which states of the runner are alike is a matter of the runner. -/
structure World.Alike (states : σ → σ → Prop) (w other : World σ) : Prop where
  tree : w.tree ≈ other.tree
  state : states w.state other.state
  trace : List.Forall₂ Happening.Alike w.trace other.trace

/-- A runner goes by its state and by what a tree holds: where these are alike, it does the same. -/
def Runner.GoesByContent (runner : Runner σ) (states : σ → σ → Prop) : Prop :=
  ∀ state otherState i t other, states state otherState → t ≈ other →
    (runner state i t).1 = (runner otherState i other).1 ∧
      states (runner state i t).2.1 (runner otherState i other).2.1 ∧
      (runner state i t).2.2 ≈ (runner otherState i other).2.2

namespace Action

variable {α β : Type} {states : σ → σ → Prop}

/-- Two actions end with the same result and in worlds that are alike, if they begin in such
worlds. -/
def Alike (states : σ → σ → Prop) (action other : Action σ α) : Prop :=
  ∀ w otherWorld, w.Alike states otherWorld →
    (action w).1 = (other otherWorld).1 ∧ (action w).2.Alike states (other otherWorld).2

namespace Alike

/-- Actions that follow one another are alike if the first ones are, and what follows is, whatever
they have given. -/
theorem bind {first otherFirst : Action σ α} {next otherNext : α → Action σ β}
    (hFirst : Alike states first otherFirst)
    (hNext : ∀ a, Alike states (next a) (otherNext a)) :
    Alike states (first >>= next) (otherFirst >>= otherNext) := by
  intro w other hStart
  obtain ⟨hResult, hMiddle⟩ := hFirst w other hStart
  change (andThen first next w).1 = (andThen otherFirst otherNext other).1 ∧
    (andThen first next w).2.Alike states (andThen otherFirst otherNext other).2
  unfold andThen
  rcases hEnd : first w with ⟨_ | a, middle⟩ <;>
    rcases hOtherEnd : otherFirst other with ⟨_ | b, otherMiddle⟩ <;>
    rw [hEnd, hOtherEnd] at hResult hMiddle
  · exact ⟨congrArg Except.error (Except.error.inj hResult), hMiddle⟩
  · cases hResult
  · cases hResult
  · obtain rfl := Except.ok.inj hResult
    exact hNext a middle otherMiddle hMiddle

theorem pure (a : α) : Alike states (Action.pure a) (Action.pure a) := fun _ _ h => ⟨rfl, h⟩

theorem fail (failure : Failure) :
    Alike states (Action.fail failure : Action σ α) (Action.fail failure) :=
  fun _ _ h => ⟨rfl, h⟩

theorem ofExcept (result : Except Failure α) :
    Alike states (Action.ofExcept result) (Action.ofExcept result) :=
  fun _ _ h => ⟨rfl, h⟩

/-- A look at the tree gives trees that are alike. -/
theorem tree {next otherNext : FileTree → Action σ β}
    (hNext : ∀ t other, t ≈ other → Alike states (next t) (otherNext other)) :
    Alike states (Action.tree >>= next) (Action.tree >>= otherNext) :=
  fun w other hStart => hNext w.tree other.tree hStart.tree w other hStart

/-- A change of the tree that keeps trees alike is an action that keeps worlds alike. -/
theorem change {f g : FileTree → FileTree} (h : ∀ t other, t ≈ other → f t ≈ g other) :
    Alike states (Action.change f) (Action.change g) :=
  fun _ _ hStart => ⟨rfl, h _ _ hStart.tree, hStart.state, hStart.trace⟩

end Alike

end Action

namespace Pipeline

variable {states : σ → σ → Prop} (p : Pipeline σ) (job : Job) (view : CommandView)

/-- An announcement goes by the pipeline alone, so that it is made in both worlds or in none. -/
theorem alike_announce (stage : Stage) :
    Action.Alike states (p.announce job stage) (p.announce job stage) := by
  intro w other hStart
  unfold announce
  split_ifs
  · exact ⟨rfl, hStart.tree, hStart.state,
      List.rel_append hStart.trace (.cons (.event _) .nil)⟩
  · exact ⟨rfl, hStart⟩

/-- The files of a unit are cleared from both trees, and these are alike then as well. -/
theorem clear_congr (c : CompileCommand) (t other : FileTree) (h : t ≈ other) :
    p.clear c t ≈ p.clear c other :=
  Artifacts.clear_congr p.site h (Artifacts.ofCommand c)

variable (hRunner : p.runner.GoesByContent states)

include hRunner

/-- A call is answered alike in both worlds. This is the only place where the runner comes in. -/
theorem alike_invoke (i : Invocation) :
    Action.Alike states (p.invoke job i) (p.invoke job i) := by
  intro w other hStart
  obtain ⟨hResult, hState, hTree⟩ := hRunner w.state other.state i w.tree other.tree hStart.state
    hStart.tree
  rw [invoke_eq, invoke_eq]
  refine ⟨congrArg (verdict job i) hResult, hTree, hState, ?_⟩
  rw [hResult]
  exact List.rel_append hStart.trace (.cons (.call i _ hStart.tree hTree) .nil)

/-- The calls that make the merged file are alike, since the arguments of the first are told from
the files only by what names the source. -/
theorem alike_expandAndMerge :
    Action.Alike states (p.expandAndMerge job view) (p.expandAndMerge job view) := by
  refine (alike_announce p job .expand).bind fun _ => Action.Alike.tree fun t other hTree => ?_
  have hTokens : view.compilerOnly (p.files t) = view.compilerOnly (p.files other) :=
    CommandView.compilerOnly_congr hTree p.site view
  rw [hTokens]
  exact (Action.Alike.ofExcept _).bind fun tokens => (alike_invoke p job hRunner _).bind fun _ =>
    (alike_announce p job .merge).bind fun _ => alike_invoke p job hRunner _

omit hRunner in
/-- A source that needs no expansion is copied in both worlds, or the copy is refused in both. -/
theorem alike_copyThrough : Action.Alike states (p.copyThrough job) (p.copyThrough job) := by
  refine (alike_announce p job .copyThrough).bind fun _ => Action.Alike.tree fun t other hTree => ?_
  have hCopy : FileSystem.AlikeResults
      ((p.files t).copy job.command.sourcePath (Artifacts.ofCommand job.command).merged)
      ((p.files other).copy job.command.sourcePath (Artifacts.ofCommand job.command).merged) :=
    FileSystem.copy_congr hTree p.site _ _
  generalize (p.files t).copy _ _ = result at hCopy ⊢
  generalize (p.files other).copy _ _ = otherResult at hCopy ⊢
  cases hCopy with
  | refused cause => exact .fail _
  | done hCopied => exact .change fun _ _ _ => hCopied

theorem alike_provideMerged (annotated : Bool) :
    Action.Alike states (p.provideMerged job view annotated)
      (p.provideMerged job view annotated) := by
  cases annotated with
  | true => exact alike_expandAndMerge p job view hRunner
  | false => exact alike_copyThrough p job

/-- The last call and the clearing behind it are alike. -/
theorem alike_conclude (annotated : Bool) :
    Action.Alike states (p.conclude job view annotated) (p.conclude job view annotated) :=
  (alike_announce p job .instrument).bind fun _ => (alike_invoke p job hRunner _).bind fun _ =>
    (alike_announce p job .cleanup).bind fun _ =>
      (Action.Alike.change (p.clear_congr job.command)).bind fun _ => .pure _

end Pipeline

end CallbackWeave

import CallbackWeave.Proofs.FileTree.Footprint
import CallbackWeave.Proofs.FileTree.Likeness
import CallbackWeave.Proofs.Pipeline.Effect
import CallbackWeave.Proofs.Pipeline.Skipped

/-!
Units that have no file in common. Under a runner that keeps to the files of the unit for which it
is called, a unit that succeeds in one tree succeeds in every other one that holds the same there,
with the same outcome and the same calls. Two units that succeed one after the other therefore
succeed in the other order too, and leave the same.
-/

namespace CallbackWeave

namespace Action

variable {σ α β : Type}

/-- If an action succeeds in a world, another one succeeds in another world with the same result,
and the worlds in which they end belong together. Nothing is said of failures: what is refused in
both worlds may be refused for different causes. -/
def Carries (after : World σ → World σ → Prop) (action other : Action σ α)
    (w otherWorld : World σ) : Prop :=
  ∀ a, (action w).1 = .ok a →
    (other otherWorld).1 = .ok a ∧ after (action w).2 (other otherWorld).2

namespace Carries

variable {between after : World σ → World σ → Prop} {w other : World σ}

/-- An action carries over, with those that follow it, if each of these does from worlds that belong
together. -/
theorem bind {first otherFirst : Action σ α} {next otherNext : α → Action σ β}
    (hFirst : Carries between first otherFirst w other)
    (hNext : ∀ a middle otherMiddle, between middle otherMiddle →
      Carries after (next a) (otherNext a) middle otherMiddle) :
    Carries after (first >>= next) (otherFirst >>= otherNext) w other := by
  intro b hResult
  change (andThen first next w).1 = .ok b at hResult
  change (andThen otherFirst otherNext other).1 = .ok b ∧
    after (andThen first next w).2 (andThen otherFirst otherNext other).2
  unfold andThen at hResult ⊢
  rcases hEnd : first w with ⟨_ | a, middle⟩ <;> rw [hEnd] at hResult
  · cases hResult
  · obtain ⟨hOther, hMiddle⟩ := hFirst a (by rw [hEnd])
    rcases hOtherEnd : otherFirst other with ⟨result, otherMiddle⟩
    rw [hEnd, hOtherEnd] at hMiddle
    obtain rfl : result = .ok a := by rw [← hOther, hOtherEnd]
    exact hNext a middle otherMiddle hMiddle b hResult

theorem pure {a : α} (h : after w other) : Carries after (Action.pure a) (Action.pure a) w other :=
  fun _ hResult => ⟨hResult, h⟩

/-- Nothing is asked of an action that fails. -/
theorem fail (failure : Failure) (otherAction : Action σ α) :
    Carries after (Action.fail failure) otherAction w other := by
  intro a hResult
  cases hResult

/-- Each action goes on with the tree of its own world. -/
theorem tree {next otherNext : FileTree → Action σ β}
    (hNext : Carries after (next w.tree) (otherNext other.tree) w other) :
    Carries after (Action.tree >>= next) (Action.tree >>= otherNext) w other :=
  hNext

theorem ofExcept {result otherResult : Except Failure α} {next otherNext : α → Action σ β}
    (hNext : ∀ a, result = .ok a → otherResult = .ok a ∧
      Carries after (next a) (otherNext a) w other) :
    Carries after (Action.ofExcept result >>= next) (Action.ofExcept otherResult >>= otherNext) w
      other := by
  cases result with
  | error failure =>
      intro b hResult
      cases hResult
  | ok a =>
      obtain ⟨rfl, hRest⟩ := hNext a rfl
      exact hRest

theorem change {f g : FileTree → FileTree}
    (h : after { w with tree := f w.tree } { other with tree := g other.tree }) :
    Carries after (Action.change f) (Action.change g) w other :=
  fun _ hResult => ⟨hResult, h⟩

theorem followedBy {action otherAction : Action σ α} {f g : FileTree → FileTree}
    (h : Carries between action otherAction w other)
    (hChange : ∀ middle otherMiddle, between middle otherMiddle →
      after { middle with tree := f middle.tree }
        { otherMiddle with tree := g otherMiddle.tree }) :
    Carries after (action.followedBy f) (otherAction.followedBy g) w other := by
  intro a hResult
  obtain ⟨hOther, hBetween⟩ := h a hResult
  exact ⟨hOther, hChange _ _ hBetween⟩

end Carries

end Action

/-- Two runs have come the same way since they began in two worlds: they have changed some locations
only, they have left the same there, and they have made the same calls. -/
structure World.Abreast {σ : Type} (places : List Location) (start otherStart w other : World σ) :
    Prop where
  trees : FileTree.AlikeAt places w.tree other.tree
  beside : FileTree.AgreeBeside places start.tree w.tree
  otherBeside : FileTree.AgreeBeside places otherStart.tree other.tree
  calls : ∃ made, Happening.calls w.trace = Happening.calls start.trace ++ made ∧
    Happening.calls other.trace = Happening.calls otherStart.trace ++ made

/-- Two runs that have not begun yet have come the same way, if the trees are alike at the
locations. -/
theorem World.Abreast.of_alikeAt {σ : Type} {places : List Location} {w other : World σ}
    (h : FileTree.AlikeAt places w.tree other.tree) : World.Abreast places w other w other :=
  ⟨h, .refl _ _, .refl _ _, [], by simp, by simp⟩

namespace Pipeline

variable {σ : Type}

/-- The runner keeps to the files of a unit. What comes of a call of the unit, and what the files of
the unit hold then, is told by the call and by what they have held; all else stays as it is, and
what is new is a file. Directories may be told apart, and nothing is said of trees with links. -/
structure SelfContained (p : Pipeline σ) (c : CompileCommand) : Prop where
  determined : ∀ view i state otherState found other, CommandView.ofCommand c = .ok view →
    p.Makes c view i → FileTree.AlikeAt (c.places p.site) found other →
      (p.runner state i found).1 = (p.runner otherState i other).1 ∧
        ∀ place ∈ c.places p.site, (p.runner state i found).2.2.get? place =
          (p.runner otherState i other).2.2.get? place
  beside : ∀ view i state found, CommandView.ofCommand c = .ok view → p.Makes c view i →
    found.LinkFree → FileTree.AgreeBeside (c.places p.site) found (p.runner state i found).2.2
  files : ∀ view i state found, CommandView.ofCommand c = .ok view → p.Makes c view i →
    found.LinkFree → ∀ place entry, (p.runner state i found).2.2.get? place = some entry →
      found.get? place = some entry ∨ ∃ content executable, entry = .file content executable

/-- What a call of a unit leaves in two trees that are alike at its files is alike again. -/
theorem SelfContained.alikeAt_left {p : Pipeline σ} {c : CompileCommand} {view : CommandView}
    {i : Invocation} (h : p.SelfContained c) (hView : CommandView.ofCommand c = .ok view)
    (hMade : p.Makes c view i) (state otherState : σ) {found other : FileTree}
    (hFound : FileTree.AlikeAt (c.places p.site) found other) :
    FileTree.AlikeAt (c.places p.site) (p.runner state i found).2.2
      (p.runner otherState i other).2.2 := by
  have hFree : ∀ (state : σ) {found : FileTree}, found.LinkFree →
      (p.runner state i found).2.2.LinkFree := by
    intro state found hFound place target hLink
    rcases h.files view i state found hView hMade hFound place _ hLink with hOld | ⟨_, _, hFile⟩
    · exact hFound place target hOld
    · cases hFile
  refine hFound.change (h.beside view i state found hView hMade hFound.linkFree)
    (h.beside view i otherState other hView hMade hFound.otherLinkFree)
    (hFree state hFound.linkFree) (hFree otherState hFound.otherLinkFree)
    (h.determined view i state otherState found other hView hMade hFound).2 ?_
  intro place hPlace hDirectory
  rcases h.files view i state found hView hMade hFound.linkFree place _ hDirectory with
    hOld | ⟨_, _, hFile⟩
  · exact hFound.plain place hPlace hOld
  · cases hFile

section

variable {p : Pipeline σ} {job : Job} {view : CommandView} {start otherStart w other : World σ}
  (current total : Nat)
  (hHere : World.Abreast (job.command.places p.site) start otherStart w other)

include hHere

theorem carries_announce (stage : Stage) :
    Action.Carries (World.Abreast (job.command.places p.site) start otherStart)
      (p.announce job stage) (p.announce ⟨current, total, job.command⟩ stage) w other := by
  -- No event is a call, whatever numbers it tells.
  have hQuiet : ∀ (unit : Job) (u : World σ), Action.Ends
      (fun v => v.tree = u.tree ∧ Happening.calls v.trace = Happening.calls u.trace)
      (p.announce unit stage) fun result v => result = .ok () ∧ v.tree = u.tree ∧
        Happening.calls v.trace = Happening.calls u.trace := by
    refine fun unit u => ends_announce p unit stage fun v event h => ⟨h.1, ?_⟩
    rw [Happening.calls_append, h.2]
    exact List.append_nil _
  obtain ⟨-, hTree, hCalls⟩ := hQuiet job w w ⟨rfl, rfl⟩
  obtain ⟨hOther, hOtherTree, hOtherCalls⟩ := hQuiet ⟨current, total, job.command⟩ other other
    ⟨rfl, rfl⟩
  refine fun _ _ => ⟨hOther, ?_⟩
  obtain ⟨hTrees, hBeside, hOtherBeside, hMade⟩ := hHere
  rw [← hTree, ← hOtherTree] at hTrees
  rw [← hTree] at hBeside
  rw [← hOtherTree] at hOtherBeside
  rw [← hCalls, ← hOtherCalls] at hMade
  exact ⟨hTrees, hBeside, hOtherBeside, hMade⟩

/-- What is done at the footprint in both worlds leaves them as they are to each other. -/
theorem abreast_of_trees {tree otherTree : FileTree}
    (hTrees : FileTree.AlikeAt (job.command.places p.site) tree otherTree)
    (hBeside : FileTree.AgreeBeside (job.command.places p.site) w.tree tree)
    (hOtherBeside : FileTree.AgreeBeside (job.command.places p.site) other.tree otherTree) :
    World.Abreast (job.command.places p.site) start otherStart { w with tree := tree }
      { other with tree := otherTree } :=
  ⟨hTrees, hHere.beside.trans hBeside, hHere.otherBeside.trans hOtherBeside, hHere.calls⟩

/-- Clearing the temporary files in both trees keeps the runs abreast. -/
theorem abreast_clear :
    World.Abreast (job.command.places p.site) start otherStart
      { w with tree := p.clear job.command w.tree }
      { other with tree := p.clear job.command other.tree } := by
  have hPlaces : Artifacts.places p.site job.command ⊆ job.command.places p.site :=
    List.subset_cons_self _ _
  dsimp only [clear, files]
  exact abreast_of_trees hHere (hHere.trees.clear hPlaces)
    ((Artifacts.agreeBeside_clear hHere.trees.linkFree (.refl _ _)).mono hPlaces)
    ((Artifacts.agreeBeside_clear hHere.trees.otherLinkFree (.refl _ _)).mono hPlaces)

/-- A call of a contained unit goes by the files of the unit, and so does the same in both runs. -/
theorem carries_invoke (hContained : p.SelfContained job.command)
    (hView : CommandView.ofCommand job.command = .ok view) {i : Invocation}
    (hMade : p.Makes job.command view i) :
    Action.Carries (World.Abreast (job.command.places p.site) start otherStart)
      (p.invoke job i) (p.invoke ⟨current, total, job.command⟩ i) w other := by
  obtain ⟨hTrees, hBeside, hOtherBeside, made, hCalls, hOtherCalls⟩ := hHere
  obtain ⟨hSame, hAgree⟩ := hContained.determined view i w.state other.state w.tree other.tree hView
    hMade hTrees
  have hChanged := hContained.alikeAt_left hView hMade w.state other.state hTrees
  unfold Action.Carries
  rw [invoke_eq, invoke_eq, ← hSame]
  intro result hResult
  have hVerdict : verdict ⟨current, total, job.command⟩ i (p.runner w.state i w.tree).1 =
      verdict job i (p.runner w.state i w.tree).1 := rfl
  refine ⟨hVerdict.trans hResult, hChanged, ?_, ?_, made ++ [i], ?_, ?_⟩
  · exact hBeside.trans (hContained.beside view i _ _ hView hMade hTrees.linkFree)
  · exact hOtherBeside.trans (hContained.beside view i _ _ hView hMade hTrees.otherLinkFree)
  · rw [Happening.calls_append, hCalls, List.append_assoc]
    rfl
  · rw [Happening.calls_append, hOtherCalls, List.append_assoc]
    rfl

/-- The copy of the source goes by the source alone, and changes the merged file only. -/
theorem carries_copyThrough :
    Action.Carries (World.Abreast (job.command.places p.site) start otherStart)
      (p.copyThrough job) (p.copyThrough ⟨current, total, job.command⟩) w other := by
  refine (carries_announce current total hHere .copyThrough).bind fun _ w other hHere =>
    Action.Carries.tree ?_
  have hSource : p.site.place job.command.sourcePath ∈ job.command.places p.site :=
    List.mem_cons_self
  have hArtifacts : Artifacts.places p.site job.command ⊆ job.command.places p.site :=
    List.subset_cons_self _ _
  have hMerged : (Artifacts.ofCommand job.command).merged ∈
      (Artifacts.ofCommand job.command).paths := by simp [Artifacts.paths]
  cases hCopy : (p.files w.tree).copy job.command.sourcePath
      (Artifacts.ofCommand job.command).merged with
  | error cause => exact .fail _ _
  | ok tree =>
      obtain ⟨otherTree, hOther, hTrees⟩ := hHere.trees.copy hSource
        (hArtifacts (Artifacts.mem_places p.site hMerged)) hCopy
      have hOtherCopy : (p.files other.tree).copy job.command.sourcePath
          (Artifacts.ofCommand job.command).merged = .ok otherTree := hOther
      rw [hOtherCopy]
      exact .change (abreast_of_trees hHere hTrees
        ((Artifacts.agreeBeside_copy hHere.trees.linkFree (.refl _ _) hMerged
          (hHere.trees.linkFree _) hCopy).mono hArtifacts)
        ((Artifacts.agreeBeside_copy hHere.trees.otherLinkFree (.refl _ _) hMerged
          (hHere.trees.otherLinkFree _) hOther).mono hArtifacts))

theorem carries_expandAndMerge (hContained : p.SelfContained job.command)
    (hView : CommandView.ofCommand job.command = .ok view) :
    Action.Carries (World.Abreast (job.command.places p.site) start otherStart)
      (p.expandAndMerge job view) (p.expandAndMerge ⟨current, total, job.command⟩ view) w
      other := by
  refine (carries_announce current total hHere .expand).bind fun _ w other hHere =>
    Action.Carries.tree (Action.Carries.ofExcept fun tokens hTokens => ⟨?_, ?_⟩)
  · have hSource : p.site.place view.command.sourcePath ∈ job.command.places p.site := by
      rw [CommandView.command_of_ofCommand hView]
      exact List.mem_cons_self
    exact (CommandView.compilerOnly_eq_of_namesSource_eq
      (hHere.trees.namesSource_eq hSource)).symm.trans hTokens
  · refine (carries_invoke current total hHere hContained hView (.expand _)).bind
      fun _ w other hHere => ?_
    refine (carries_announce current total hHere .merge).bind fun _ w other hHere => ?_
    exact carries_invoke current total hHere hContained hView .merge

theorem carries_provideMerged (hContained : p.SelfContained job.command)
    (hView : CommandView.ofCommand job.command = .ok view) (annotated : Bool) :
    Action.Carries (World.Abreast (job.command.places p.site) start otherStart)
      (p.provideMerged job view annotated)
      (p.provideMerged ⟨current, total, job.command⟩ view annotated) w other := by
  cases annotated with
  | true => exact carries_expandAndMerge current total hHere hContained hView
  | false => exact carries_copyThrough current total hHere

theorem carries_conclude (hContained : p.SelfContained job.command)
    (hView : CommandView.ofCommand job.command = .ok view) (annotated : Bool) :
    Action.Carries (World.Abreast (job.command.places p.site) start otherStart)
      (p.conclude job view annotated)
      (p.conclude ⟨current, total, job.command⟩ view annotated) w other := by
  refine (carries_announce current total hHere .instrument).bind fun _ w other hHere => ?_
  refine (carries_invoke current total hHere hContained hView .instrument).bind
    fun _ w other hHere => ?_
  refine (carries_announce current total hHere .cleanup).bind fun _ w other hHere => ?_
  exact (Action.Carries.change (abreast_clear hHere)).bind fun _ _ _ hHere => .pure hHere

/-- What an admitted unit does in one tree, it does in another one that holds the same files of the
unit. -/
theorem carries_stages (hContained : p.SelfContained job.command)
    (hView : CommandView.ofCommand job.command = .ok view) :
    Action.Carries (World.Abreast (job.command.places p.site) start otherStart)
      (p.stages job view) (p.stages ⟨current, total, job.command⟩ view) w other := by
  refine (Action.Carries.change (abreast_clear hHere)).bind fun _ w other hHere => ?_
  refine (carries_announce current total hHere .annotate).bind fun _ w other hHere => ?_
  refine (carries_invoke current total hHere hContained hView .annotate).bind
    fun _ w other hHere => Action.Carries.tree ?_
  have hArtifacts : Artifacts.places p.site job.command ⊆ job.command.places p.site :=
    List.subset_cons_self _ _
  have hAnnotated : (p.files w.tree).holds (Artifacts.ofCommand job.command).annotated =
      (p.files other.tree).holds (Artifacts.ofCommand job.command).annotated :=
    hHere.trees.holds_eq (hArtifacts (Artifacts.mem_places p.site (by simp [Artifacts.paths])))
  rw [hAnnotated]
  exact (carries_provideMerged current total hHere hContained hView _).bind
    fun _ w other hHere => carries_conclude current total hHere hContained hView _

/-- A unit that succeeds in one world succeeds in every other one that holds the same at its
footprint, under whatever number, and the two runs stay abreast. -/
theorem carries_process (hContained : p.SelfContained job.command) :
    Action.Carries (World.Abreast (job.command.places p.site) start otherStart)
      (p.process job) (p.process ⟨current, total, job.command⟩) w other := by
  unfold process
  split
  next =>
    refine Action.Carries.ofExcept fun view hView => ⟨hView, ?_⟩
    exact (carries_stages current total hHere hContained hView).followedBy
      fun _ _ hEnd => abreast_clear hEnd
  next =>
    exact (carries_announce current total hHere .select).bind fun _ _ _ hEnd => .pure hEnd

end

/-- After a unit has succeeded, a tree is as it was at the footprint of another unit. -/
theorem alikeAt_of_process {p : Pipeline σ} (job : Job) {w middle : World σ} {outcome : Outcome}
    {places : List Location} (hFree : w.tree.LinkFree)
    (hApart : (job.command.places p.site).Disjoint places)
    (hPlain : ∀ place ∈ job.command.places p.site, w.tree.get? place ≠ some .directory)
    (hPlaces : ∀ place ∈ places, w.tree.get? place ≠ some .directory)
    (hContained : p.SelfContained job.command) (hMiddle : p.process job w = (.ok outcome, middle)) :
    FileTree.AgreeBeside (job.command.places p.site) w.tree middle.tree ∧
      FileTree.AlikeAt places w.tree middle.tree := by
  have hStart : World.Abreast (job.command.places p.site) w w w w :=
    .of_alikeAt (.refl hFree hPlain)
  obtain ⟨-, hEnd⟩ := carries_process job.current job.total hStart hContained outcome
    (by rw [hMiddle])
  rw [hMiddle] at hEnd
  exact ⟨hEnd.beside, .of_apart hFree hEnd.trees.linkFree hEnd.beside hApart hPlain hEnd.trees.plain
    hPlaces⟩

/-- Of two units with no file in common, each of which succeeds alone, the one succeeds after the
other one. -/
theorem exists_process_of_alone {p : Pipeline σ} (first second : Job) {w : World σ}
    (hFree : w.tree.LinkFree)
    (hApart : (first.command.places p.site).Disjoint (second.command.places p.site))
    (hPlain : ∀ place ∈ first.command.places p.site ++ second.command.places p.site,
      w.tree.get? place ≠ some .directory)
    (hFirst : p.SelfContained first.command) (hSecond : p.SelfContained second.command)
    {outcome otherOutcome : Outcome} (hAlone : (p.process first w).1 = .ok outcome)
    (hOtherAlone : (p.process second w).1 = .ok otherOutcome) :
    ∃ middle last, p.process first w = (.ok outcome, middle) ∧
      p.process second middle = (.ok otherOutcome, last) := by
  obtain ⟨hFirstPlain, hSecondPlain⟩ := List.forall_mem_append.mp hPlain
  generalize hMiddle : p.process first w = middleEnd at hAlone
  obtain ⟨result, middle⟩ := middleEnd
  obtain rfl : result = .ok outcome := hAlone
  obtain ⟨-, hAlike⟩ :=
    alikeAt_of_process first hFree hApart hFirstPlain hSecondPlain hFirst hMiddle
  have hStart : World.Abreast (second.command.places p.site) w middle w middle :=
    .of_alikeAt hAlike
  obtain ⟨hLast, -⟩ := carries_process second.current second.total hStart hSecond _ hOtherAlone
  exact ⟨middle, (p.process second middle).2, rfl, Prod.ext hLast rfl⟩

/-- Independent units commute. Let two units have no file in common, in a tree without links in
which no directory stands in the place of one of their files, under a runner that keeps to the files
of the unit for which it is called. If the one succeeds and then the other one, then they succeed in
the other order as well, whatever their numbers are then. Each comes to the same outcome and makes
the same calls, and the tree holds the same in the end. -/
theorem units_commute (p : Pipeline σ) (first second : Job) (w : World σ)
    (hFree : w.tree.LinkFree)
    (hApart : (first.command.places p.site).Disjoint (second.command.places p.site))
    (hPlain : ∀ place ∈ first.command.places p.site ++ second.command.places p.site,
      w.tree.get? place ≠ some .directory)
    (hFirst : p.SelfContained first.command) (hSecond : p.SelfContained second.command)
    {outcome otherOutcome : Outcome} {middle last : World σ}
    (hMiddle : p.process first w = (.ok outcome, middle))
    (hLast : p.process second middle = (.ok otherOutcome, last)) (m n k l : Nat) :
    ∃ otherMiddle otherLast,
      p.process ⟨m, n, second.command⟩ w = (.ok otherOutcome, otherMiddle) ∧
      p.process ⟨k, l, first.command⟩ otherMiddle = (.ok outcome, otherLast) ∧
      otherLast.tree ≈ last.tree ∧
      ∃ calls otherCalls,
        Happening.calls middle.trace = Happening.calls w.trace ++ calls ∧
        Happening.calls last.trace = Happening.calls middle.trace ++ otherCalls ∧
        Happening.calls otherMiddle.trace = Happening.calls w.trace ++ otherCalls ∧
        Happening.calls otherLast.trace = Happening.calls otherMiddle.trace ++ calls := by
  obtain ⟨hFirstPlain, hSecondPlain⟩ := List.forall_mem_append.mp hPlain
  -- The second unit cannot tell the tree that the first one leaves from the one it has found.
  obtain ⟨hBeside, hAlike⟩ :=
    alikeAt_of_process first hFree hApart hFirstPlain hSecondPlain hFirst hMiddle
  have hSecondStart : World.Abreast (second.command.places p.site) middle w middle w :=
    .of_alikeAt hAlike.symm
  obtain ⟨hOtherMiddle, hSecondEnd⟩ := carries_process m n hSecondStart hSecond otherOutcome
    (by rw [hLast])
  generalize hOther : p.process ⟨m, n, second.command⟩ w = otherEnd at hOtherMiddle hSecondEnd
  obtain ⟨otherResult, otherMiddle⟩ := otherEnd
  obtain rfl : otherResult = .ok otherOutcome := hOtherMiddle
  rw [hLast] at hSecondEnd
  -- Nor can the first unit tell what the second one leaves.
  obtain ⟨hOtherBeside, hOtherAlike⟩ := alikeAt_of_process ⟨m, n, second.command⟩ hFree
    (List.disjoint_symm hApart) hSecondPlain hFirstPlain hSecond hOther
  have hFirstStart : World.Abreast (first.command.places p.site) w otherMiddle w otherMiddle :=
    .of_alikeAt hOtherAlike
  obtain ⟨hOtherLast, hFirstEnd⟩ := carries_process k l hFirstStart hFirst outcome
    (by rw [hMiddle])
  generalize hFinal : p.process ⟨k, l, first.command⟩ otherMiddle = finalEnd at hOtherLast hFirstEnd
  obtain ⟨finalResult, otherLast⟩ := finalEnd
  obtain rfl : finalResult = .ok outcome := hOtherLast
  rw [hMiddle] at hFirstEnd
  obtain ⟨calls, hCalls, hFinalCalls⟩ := hFirstEnd.calls
  obtain ⟨otherCalls, hLastCalls, hOtherCalls⟩ := hSecondEnd.calls
  refine ⟨otherMiddle, otherLast, rfl, hFinal, fun place => ?_, calls, otherCalls, hCalls,
    hLastCalls, hOtherCalls, hFinalCalls⟩
  by_cases hOwn : place ∈ first.command.places p.site
  · rw [← hFirstEnd.trees.agree place hOwn, hSecondEnd.beside place (hApart hOwn)]
  · rw [hFirstEnd.otherBeside place hOwn]
    by_cases hOthers : place ∈ second.command.places p.site
    · exact (hSecondEnd.trees.agree place hOthers).symm
    · rw [hOtherBeside place hOthers, hSecondEnd.beside place hOthers, hBeside place hOwn]

/-- The files that a call of a unit reads and writes are files of the unit. -/
theorem Makes.exists_files {p : Pipeline σ} {c : CompileCommand} {view : CommandView}
    {i : Invocation} (hMade : p.Makes c view i) :
    ∃ inputs output, p.settings.inputs? i = some inputs ∧ p.settings.output? i = some output ∧
      ∀ path ∈ output :: inputs, p.site.place path ∈ c.places p.site := by
  have hPlaces : ∀ paths : List Path, paths ⊆ c.sourcePath :: (Artifacts.ofCommand c).paths →
      ∀ path ∈ paths, p.site.place path ∈ c.places p.site :=
    fun paths hPaths path hPath => List.mem_map_of_mem (hPaths hPath)
  cases hMade with
  | annotate =>
      obtain ⟨hRead, hWritten⟩ := p.files_annotateCall c view
      exact ⟨_, _, hRead, hWritten, hPlaces _ (by simp [Artifacts.paths])⟩
  | expand rest =>
      obtain ⟨hRead, hWritten⟩ := p.files_expandCall c view rest
      exact ⟨_, _, hRead, hWritten, hPlaces _ (by simp [Artifacts.paths])⟩
  | merge =>
      obtain ⟨hRead, hWritten⟩ := p.files_mergeCall c
      exact ⟨_, _, hRead, hWritten, hPlaces _ (by simp [Artifacts.paths])⟩
  | instrument =>
      obtain ⟨hRead, hWritten⟩ := p.files_instrumentCall c view
      exact ⟨_, _, hRead, hWritten, hPlaces _ (by simp [Artifacts.paths])⟩

/-- Programs that do what a function of their files tells keep to the files of each unit. -/
theorem selfContained_obedient {p : Pipeline Unit} {make : ToolFunction}
    (hRunner : p.runner = obedient p.settings p.site make) (c : CompileCommand) :
    p.SelfContained c := by
  have hWrites : ∀ {view i} (found : FileTree), p.Makes c view i → found.LinkFree →
      (p.runner () i found).2.2 = found ∨ ∃ place bytes, place ∈ c.places p.site ∧ place ≠ [] ∧
        (p.runner () i found).2.2 = found.put place (.file bytes false) := by
    intro view i found hMade hFree
    obtain ⟨inputs, output, -, hOutput, hPlaces⟩ := hMade.exists_files
    rw [hRunner]
    refine (obedient_cases p.settings p.site make i found hOutput).imp_right ?_
    rintro ⟨spot, bytes, hSpot, hPut⟩
    have hPlace : spot.place = p.site.place output :=
      FileSystem.place_of_locate hFree (FileSystem.locate_of_writable hSpot).1
    exact ⟨spot.place, bytes, hPlace ▸ hPlaces output List.mem_cons_self,
      FileSystem.place_ne_nil_of_writable hSpot, hPut⟩
  constructor
  case determined =>
    intro view i state otherState found other hView hMade hFound
    obtain ⟨inputs, output, hInputs, hOutput, hPlaces⟩ := hMade.exists_files
    have hContents : inputs.mapM (⟨p.site, found⟩ : FileSystem).content? =
        inputs.mapM (⟨p.site, other⟩ : FileSystem).content? := by
      have hMap : inputs.map (⟨p.site, found⟩ : FileSystem).content? =
          inputs.map (⟨p.site, other⟩ : FileSystem).content? := by
        refine List.map_congr_left fun path hPath => ?_
        rw [FileSystem.content?, FileSystem.content?,
          hFound.entry?_eq (hPlaces path (List.mem_cons_of_mem _ hPath))]
      simpa only [List.mapM_map, Function.id_comp] using congrArg (List.mapM id) hMap
    have hSpot := hFound.toOption_writable_eq (hPlaces output List.mem_cons_self)
    rw [hRunner]
    refine ⟨rfl, fun place hPlace => ?_⟩
    simp only [obedient, hInputs, hOutput, hContents, hSpot, bind, Option.bind_some]
    cases inputs.mapM (⟨p.site, other⟩ : FileSystem).content? with
    | none => exact hFound.agree place hPlace
    | some contents =>
        cases hWritable : (⟨p.site, other⟩ : FileSystem).writable output with
        | error cause => exact hFound.agree place hPlace
        | ok spot =>
            have hBelow : spot.place ≠ [] := FileSystem.place_ne_nil_of_writable hWritable
            cases hMake : make i contents with
            | none => simpa [Except.toOption, hMake] using hFound.agree place hPlace
            | some bytes =>
                simp [Except.toOption, hMake, FileTree.get?_put _ _ _ _ hBelow,
                  hFound.agree place hPlace]
  case beside =>
    intro view i state found hView hMade hFree
    rcases hWrites found hMade hFree with hSame | ⟨place, bytes, hPlace, hBelow, hPut⟩
    · rw [hSame]
      exact .refl _ _
    · rw [hPut]
      exact .put hPlace hBelow _ _
  case files =>
    intro view i state found hView hMade hFree place entry hEntry
    rcases hWrites found hMade hFree with hSame | ⟨target, bytes, hPlace, hBelow, hPut⟩
    · rw [hSame] at hEntry
      exact Or.inl hEntry
    · rw [hPut, FileTree.get?_put _ _ _ _ hBelow] at hEntry
      split_ifs at hEntry
      · exact Or.inr ⟨bytes, false, (Option.some.inj hEntry).symm⟩
      · exact Or.inl hEntry

/-- Tools that find nothing to annotate, and put a mark behind what they read. -/
def sparing : ToolFunction := fun i contents =>
  if i.stage = .annotate then none else some (contents.flatten ++ [0x0a])

/-- The pipeline of the project with these tools. -/
def sparingSample : Pipeline Unit := sample (obedient .standard .sample sparing)

/-- A unit with nothing to annotate succeeds with tools that keep their contract. -/
theorem process_of_unannotated {p : Pipeline σ} {make : ToolFunction} {job : Job}
    {view : CommandView} {sourceName : String} {w : World σ} {source : Bytes}
    (hTools : p.Performs make) (hBefore : Workable p.site job.command sourceName w.tree)
    (hDirectory : job.command.directory.isAbsolute = true)
    (hContent : (p.files w.tree).content? job.command.sourcePath = some source)
    (hAdmitted : p.allowlist.admits job.command.sourcePath = true)
    (hTokens : CommandView.ofCommand job.command = .ok view)
    (hNothing : make (p.annotateCall job.command view) [source] = none) :
    (p.process job w).1 = .ok (.instrumented true) := by
  have hCompiler : (make (p.annotateCall job.command view) [source]).isSome = true →
      view.compilerOnly (p.files w.tree) = .ok [] := by simp [hNothing]
  obtain ⟨_, _, hStages⟩ := ends_stages_performed hTools hBefore hDirectory hContent
    (CommandView.command_of_ofCommand hTokens) hCompiler
  have hEnd := (hStages w rfl).1
  rw [hNothing, Option.isNone_none] at hEnd
  rw [process_eq p hAdmitted hTokens]
  exact hEnd

/-- A unit of the project with two sources succeeds with these tools, whatever the run is restricted
to and whatever number the unit has. -/
theorem process_restricted {s : String} (hName : EntryName s) (hReadable : '\x00' ∉ s.toList)
    (hShort : s.utf8ByteSize ≤ Path.nameLimit) {content : Bytes}
    (hSource : (FileTree.pair "b.c").get? ["work", s] = some (.file content false))
    (hPlain : ∀ place ∈ (Job.sample s).command.places .sample,
      (FileTree.pair "b.c").get? place ≠ some .directory)
    (hLimits : (Artifacts.ofCommand (Job.sample s).command).WithinLimits) {allowlist : Allowlist}
    (hAdmitted : allowlist.admits (Job.sample s).command.sourcePath = true) (current total : Nat)
    (trace : List Happening) :
    ({ sparingSample with allowlist := allowlist }.process
      ⟨current, total, (Job.sample s).command⟩ ⟨.pair "b.c", (), trace⟩).1 =
        .ok (.instrumented true) := by
  have hFree := FileTree.linkFree_pair "b.c"
  have hLocate : (⟨.sample, .pair "b.c"⟩ : FileSystem).locate .target
      (Job.sample s).command.sourcePath = .ok ⟨["work", s], some (.file content false)⟩ :=
    (FileSystem.reaches_work hName hReadable hShort rfl).locate_of_entry .target hSource (by simp)
  have hFile : (⟨.sample, .pair "b.c"⟩ : FileSystem).isFile (Job.sample s).command.sourcePath =
      true := by
    simp only [FileSystem.isFile, hLocate]
    rfl
  have hContent : (sparingSample.files (.pair "b.c")).content? (Job.sample s).command.sourcePath =
      some content := by
    have hEntry : (sparingSample.files (.pair "b.c")).locate .target
      (Job.sample s).command.sourcePath = .ok ⟨["work", s], some (.file content false)⟩ := hLocate
    simp only [FileSystem.content?, FileSystem.entry?, hEntry]
  have hArtifacts : ∀ path ∈ (Artifacts.ofCommand (Job.sample s).command).paths,
      (⟨.sample, .pair "b.c"⟩ : FileSystem).isDirectory path = false := by
    refine fun path hPath => FileSystem.isDirectory_eq_false hFree (hPlain _ ?_)
    exact List.mem_cons_of_mem _ (Artifacts.mem_places .sample hPath)
  have hDirectory : (Job.sample s).command.directory.isAbsolute = true :=
    (by decide : (⟨"/work"⟩ : Path).isAbsolute = true)
  have hBefore : Workable sparingSample.site (Job.sample s).command s (.pair "b.c") :=
    .of_source (Job.fileName?_sample hName) hFree hFile hArtifacts hLimits
  have hTools : { sparingSample with allowlist := allowlist }.Performs sparing :=
    performs_obedient rfl fun i contents hStage => by simp [sparing, hStage]
  have hNothing : sparing (sparingSample.annotateCall (Job.sample s).command (.sample s))
      [content] = none := rfl
  exact process_of_unannotated hTools hBefore hDirectory hContent hAdmitted
    (CommandView.ofCommand_sample s) hNothing

theorem process_sparing {s : String} (hName : EntryName s) (hReadable : '\x00' ∉ s.toList)
    (hShort : s.utf8ByteSize ≤ Path.nameLimit) {content : Bytes}
    (hSource : (FileTree.pair "b.c").get? ["work", s] = some (.file content false))
    (hPlain : ∀ place ∈ (Job.sample s).command.places .sample,
      (FileTree.pair "b.c").get? place ≠ some .directory)
    (hLimits : (Artifacts.ofCommand (Job.sample s).command).WithinLimits) :
    (sparingSample.process (.sample s) ⟨.pair "b.c", (), []⟩).1 = .ok (.instrumented true) :=
  process_restricted hName hReadable hShort hSource hPlain hLimits rfl 1 1 []

theorem units_commute_sparing :
    (FileTree.pair "b.c").LinkFree ∧
    ((Job.sample "a.c").command.places .sample).Disjoint
      ((Job.sample "b.c").command.places .sample) ∧
    (∀ place ∈ (Job.sample "a.c").command.places .sample ++
      (Job.sample "b.c").command.places .sample,
        (FileTree.pair "b.c").get? place ≠ some .directory) ∧
    sparingSample.SelfContained (Job.sample "a.c").command ∧
    sparingSample.SelfContained (Job.sample "b.c").command ∧
    ∃ middle last,
      sparingSample.process (.sample "a.c") ⟨.pair "b.c", (), []⟩ =
        (.ok (.instrumented true), middle) ∧
      sparingSample.process (.sample "b.c") middle = (.ok (.instrumented true), last) ∧
      ∃ otherMiddle otherLast,
        sparingSample.process ⟨1, 2, (Job.sample "b.c").command⟩ ⟨.pair "b.c", (), []⟩ =
          (.ok (.instrumented true), otherMiddle) ∧
        sparingSample.process ⟨2, 2, (Job.sample "a.c").command⟩ otherMiddle =
          (.ok (.instrumented true), otherLast) ∧
        otherLast.tree ≈ last.tree ∧
        ∃ calls otherCalls,
          Happening.calls middle.trace = [] ++ calls ∧
          Happening.calls last.trace = Happening.calls middle.trace ++ otherCalls ∧
          Happening.calls otherMiddle.trace = [] ++ otherCalls ∧
          Happening.calls otherLast.trace = Happening.calls otherMiddle.trace ++ calls := by
  have hFree := FileTree.linkFree_pair "b.c"
  have hSeparate : ∀ place ∈ (Job.sample "a.c").command.places .sample,
      place ∉ (Job.sample "b.c").command.places .sample := by decide +kernel
  have hPlain : ∀ place ∈ (Job.sample "a.c").command.places .sample ++
      (Job.sample "b.c").command.places .sample,
        (FileTree.pair "b.c").get? place ≠ some .directory := by decide +kernel
  have hLimits : ∀ s ∈ ["a.c", "b.c"],
      (Artifacts.ofCommand (Job.sample s).command).WithinLimits := by
    unfold Artifacts.WithinLimits
    decide +kernel
  have hName : EntryName "b.c" := ⟨by decide, by decide, by decide, by decide⟩
  obtain ⟨hFirstPlain, hSecondPlain⟩ := List.forall_mem_append.mp hPlain
  have hContained : ∀ c, sparingSample.SelfContained c := selfContained_obedient rfl
  have hFirst := process_sparing entryName_sample (by decide) (by decide)
    (show _ = some (Entry.file [0x41] false) by decide +kernel) hFirstPlain (hLimits _ (by simp))
  have hAlone := process_sparing hName (by decide) (by decide)
    (show _ = some (Entry.file [0x42] false) by decide +kernel) hSecondPlain (hLimits _ (by simp))
  have hApart : ((Job.sample "a.c").command.places .sample).Disjoint
      ((Job.sample "b.c").command.places .sample) := fun place hPlace => hSeparate place hPlace
  obtain ⟨middle, last, hMiddle, hLast⟩ := exists_process_of_alone (p := sparingSample)
    (.sample "a.c") (.sample "b.c") (w := ⟨.pair "b.c", (), []⟩) hFree hApart hPlain (hContained _)
    (hContained _) hFirst hAlone
  exact ⟨hFree, hApart, hPlain, hContained _, hContained _, middle, last, hMiddle, hLast,
    units_commute sparingSample (.sample "a.c") (.sample "b.c") ⟨.pair "b.c", (), []⟩ hFree hApart
      hPlain (hContained _) (hContained _) hMiddle hLast 1 2 2 2⟩

end Pipeline

end CallbackWeave

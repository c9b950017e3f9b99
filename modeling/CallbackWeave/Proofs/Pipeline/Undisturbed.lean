import CallbackWeave.Proofs.Pipeline.Actions
import CallbackWeave.Proofs.Pipeline.Frame
import CallbackWeave.Proofs.Pipeline.Tools

/-!
Units that are not instrumented. The tools that come before the instrumentation are trusted with
one file each, and they may fail whenever they like, with whatever they have made of that file. As
long as no instrumenting call changes anything, the tree is what it was beside the temporary files
of the unit, at whichever point the unit ends.
-/

namespace CallbackWeave.Pipeline

variable {σ : Type}

/-- What the calls of a trace have changed is no more than they may. Nothing is said of their
answers, nor of what they leave in the file that they may write. -/
structure Confined (p : Pipeline σ) (trace : List Happening) : Prop where
  /-- Before the instrumentation, a call changes nothing but the file it names as its output. -/
  output : ∀ i result found left output, .call i result found left ∈ trace → i.stage ≠ .instrument →
    p.settings.output? i = some output → FileTree.AgreeBeside [p.site.place output] found left
  /-- An instrumenting call changes nothing. -/
  instrument : ∀ i result found left, .call i result found left ∈ trace → i.stage = .instrument →
    FileTree.AgreeBeside [] found left

theorem Confined.of_append {p : Pipeline σ} {trace more : List Happening}
    (h : p.Confined (trace ++ more)) : p.Confined trace where
  output i result found left output hMem :=
    h.output i result found left output (List.mem_append_left more hMem)
  instrument i result found left hMem :=
    h.instrument i result found left (List.mem_append_left more hMem)

variable {p : Pipeline σ} {job : Job} {view : CommandView} {before : FileTree}

/-- Beside the temporary files of a unit the tree is as it was, if its calls were confined. -/
def Undisturbed (p : Pipeline σ) (job : Job) (before : FileTree) (w : World σ) : Prop :=
  p.Confined w.trace → FileTree.AgreeBeside (Artifacts.places p.site job.command) before w.tree

/-- Moreover no link stands in the place of the merged file. -/
structure UndisturbedPlain (p : Pipeline σ) (job : Job) (before : FileTree) (w : World σ) :
    Prop where
  undisturbed : Undisturbed p job before w
  plain : p.Confined w.trace → ∀ target,
    w.tree.get? (p.site.place (Artifacts.ofCommand job.command).merged) ≠ some (.link target)

theorem keeps_announce_undisturbed (stage : Stage) :
    Action.Keeps (Undisturbed p job before) (p.announce job stage) :=
  keeps_announce p job stage fun _ _ h hTrace => h hTrace.of_append

/-- A call before the instrumentation disturbs at most its own output. -/
theorem keeps_invoke_undisturbed {i : Invocation} {output : Path} (hStage : i.stage ≠ .instrument)
    (hOutput : p.settings.output? i = some output)
    (hPath : output ∈ (Artifacts.ofCommand job.command).paths) :
    Action.Keeps (Undisturbed p job before) (p.invoke job i) := by
  intro w hStart
  rw [invoke_eq]
  intro hTrace
  have hCall := hTrace.output _ _ _ _ output (List.mem_append_right _ (List.mem_singleton_self _))
    hStage hOutput
  exact (hStart hTrace.of_append).trans
    (hCall.mono (List.cons_subset.mpr ⟨Artifacts.mem_places p.site hPath, List.nil_subset _⟩))

/-- The annotating call leaves the place of the merged file alone as well. -/
theorem keeps_annotate :
    Action.Keeps (UndisturbedPlain p job before)
      (p.invoke job (p.annotateCall job.command view)) := by
  intro w hStart
  have hStage : (p.annotateCall job.command view).stage ≠ .instrument := by simp [annotateCall]
  have hOutput := (p.files_annotateCall job.command view).2
  refine ⟨keeps_invoke_undisturbed hStage hOutput (by simp [Artifacts.paths]) w
    hStart.undisturbed, ?_⟩
  rw [invoke_eq]
  intro hTrace target
  have hCall := hTrace.output _ _ _ _ _ (List.mem_append_right _ (List.mem_singleton_self _))
    hStage hOutput
  have hOther : p.site.place (Artifacts.ofCommand job.command).merged ∉
      [p.site.place (Artifacts.ofCommand job.command).annotated] := by
    rw [List.mem_singleton]
    exact Artifacts.place_merged_ne_annotated p.site job.command
  rw [hCall _ hOther]
  exact hStart.plain hTrace.of_append target

/-- The instrumenting call may change anything, but then it is recorded to have done so. -/
theorem keeps_instrument :
    Action.Keeps (Undisturbed p job before)
      (p.invoke job (p.instrumentCall job.command view)) := by
  intro w hStart
  rw [invoke_eq]
  intro hTrace
  have hCall := hTrace.instrument _ _ _ _ (List.mem_append_right _ (List.mem_singleton_self _)) rfl
  exact (hStart hTrace.of_append).trans (hCall.mono (List.nil_subset _))

theorem keeps_expandAndMerge :
    Action.Keeps (Undisturbed p job before) (p.expandAndMerge job view) := by
  have hExpand : ∀ rest, Action.Keeps (Undisturbed p job before)
      (p.invoke job (p.expandCall job.command view rest)) :=
    fun rest => keeps_invoke_undisturbed (by simp [expandCall])
      (p.files_expandCall job.command view rest).2 (by simp [Artifacts.paths])
  have hMerge : Action.Keeps (Undisturbed p job before) (p.invoke job (p.mergeCall job.command)) :=
    keeps_invoke_undisturbed (by simp [mergeCall]) (p.files_mergeCall job.command).2
      (by simp [Artifacts.paths])
  exact (keeps_announce_undisturbed .expand).bind fun _ => Action.Keeps.tree.bind fun _ =>
    (Action.Keeps.ofExcept _).bind fun _ => (hExpand _).bind fun _ =>
      (keeps_announce_undisturbed .merge).bind fun _ => hMerge

/-- The source is copied to a place at which no link stands. -/
theorem ends_copyThrough (hFree : before.LinkFree) :
    Action.Ends (UndisturbedPlain p job before) (p.copyThrough job)
      fun _ => Undisturbed p job before := by
  have hAnnounce : Action.Keeps (UndisturbedPlain p job before) (p.announce job .copyThrough) :=
    keeps_announce p job .copyThrough fun _ _ h =>
      ⟨fun hTrace => h.undisturbed hTrace.of_append, fun hTrace => h.plain hTrace.of_append⟩
  refine hAnnounce.andThen (fun _ h => h.undisturbed) fun _ w hStart => ?_
  simp only [bind, Action.andThen, Action.tree]
  cases hCopy : (p.files w.tree).copy job.command.sourcePath
      (Artifacts.ofCommand job.command).merged with
  | ok tree =>
      exact fun hTrace => Artifacts.agreeBeside_copy hFree (hStart.undisturbed hTrace)
        (by simp [Artifacts.paths]) (hStart.plain hTrace) hCopy
  | error cause => exact hStart.undisturbed

theorem ends_provideMerged (hFree : before.LinkFree) (annotated : Bool) :
    Action.Ends (UndisturbedPlain p job before) (p.provideMerged job view annotated)
      fun _ => Undisturbed p job before := by
  cases annotated with
  | true => exact fun w hStart => keeps_expandAndMerge w hStart.undisturbed
  | false => exact ends_copyThrough hFree

/-- Clearing the temporary files disturbs nothing. -/
theorem Undisturbed.clear (hFree : before.LinkFree) {w : World σ}
    (h : Undisturbed p job before w) :
    Undisturbed p job before { w with tree := p.clear job.command w.tree } := by
  intro hTrace
  have hAgree := h hTrace
  dsimp only [Pipeline.clear, files]
  exact Artifacts.agreeBeside_clear hFree hAgree

theorem keeps_conclude (hFree : before.LinkFree) (annotated : Bool) :
    Action.Keeps (Undisturbed p job before) (p.conclude job view annotated) := by
  have hLast : Action.Keeps (Undisturbed p job before) (Action.change (p.clear job.command)) :=
    Action.Keeps.change fun _ h => h.clear hFree
  exact (keeps_announce_undisturbed .instrument).bind fun _ => keeps_instrument.bind fun _ =>
    (keeps_announce_undisturbed .cleanup).bind fun _ => hLast.bind fun _ => Action.Keeps.pure _

theorem ends_stages (hFree : before.LinkFree) :
    Action.Ends (fun w => w.tree = before) (p.stages job view)
      fun _ => Undisturbed p job before := by
  have hFirst : Action.Ends (fun w => w.tree = before)
      (Action.change (σ := σ) (p.clear job.command)) fun _ => UndisturbedPlain p job before := by
    refine Action.Ends.change fun w hTree => ?_
    have hSame : Undisturbed p job before w := fun _ => hTree ▸ FileTree.AgreeBeside.refl _ _
    refine ⟨hSame.clear hFree, fun _ target hLink => ?_⟩
    dsimp only [clear, files] at hLink
    exact hFree _ target (hTree ▸ Artifacts.get?_of_get?_clear hLink)
  have hAnnounce : Action.Keeps (UndisturbedPlain p job before) (p.announce job .annotate) :=
    keeps_announce p job .annotate fun _ _ h =>
      ⟨fun hTrace => h.undisturbed hTrace.of_append, fun hTrace => h.plain hTrace.of_append⟩
  refine hFirst.andThen (fun _ h => h.undisturbed) fun _ => ?_
  refine hAnnounce.andThen (fun _ h => h.undisturbed) fun _ => ?_
  refine keeps_annotate.andThen (fun _ h => h.undisturbed) fun _ => ?_
  refine Action.Keeps.tree.andThen (fun _ h => h.undisturbed) fun tree => ?_
  exact (ends_provideMerged hFree _).andThen (fun _ h => h) fun _ => keeps_conclude hFree _

/-- However a unit ends, a tree in which its calls were confined is as it was. -/
theorem ends_process (hFree : before.LinkFree) :
    Action.Ends (fun w => w.tree = before) (p.process job) fun _ => Undisturbed p job before := by
  have hSame : ∀ w : World σ, w.tree = before → Undisturbed p job before w :=
    fun _ hTree _ => hTree ▸ FileTree.AgreeBeside.refl _ _
  unfold process
  split
  · refine (Action.Keeps.ofExcept _).andThen hSame fun view => ?_
    exact Action.Ends.followedBy
      ((ends_stages hFree).weaken (fun _ h => h) fun _ _ h => h.clear hFree)
  · have hSkip : Action.Keeps (Undisturbed p job before) (do
        p.announce job .select
        Action.pure Outcome.skipped) :=
      (keeps_announce_undisturbed .select).bind fun _ => Action.Keeps.pure _
    exact Action.Ends.weaken hSkip hSame fun _ _ h => h

/-- In a tree without links, a unit leaves every location as it was, the three of its temporary
files excepted, if none of its calls before the instrumentation changes anything but its own output
and no instrumenting call changes anything at all. It does so however it ends, so that a unit that
fails before its instrumentation leaves the project alone. A unit whose command has no usable tokens
changes nothing whatever. -/
theorem process_undisturbed (p : Pipeline σ) (job : Job) (tree : FileTree) (state : σ)
    (hFree : tree.LinkFree)
    (hCalls : p.Confined (p.process job ⟨tree, state, []⟩).2.trace) :
    (∀ place ∉ (Artifacts.ofCommand job.command).paths.map p.site.place,
      (p.process job ⟨tree, state, []⟩).2.tree.get? place = tree.get? place) ∧
    ∀ failure, p.allowlist.admits job.command.sourcePath = true →
      CommandView.ofCommand job.command = .error failure →
        p.process job ⟨tree, state, []⟩ = (.error failure, ⟨tree, state, []⟩) := by
  constructor
  · exact ends_process hFree ⟨tree, state, []⟩ rfl hCalls
  · intro failure hAdmitted hTokens
    simp [process, hAdmitted, bind, Action.andThen, Action.ofExcept, hTokens]

/-- A runner that begins to write the annotated file of the sample, and then fails. -/
def faltering : Runner Unit := fun state _ tree =>
  (.ok ⟨some 1⟩, state, tree.put ["work", "a__hookpass_org__.c"] (.file [0x2f] false))

/-- What happens to the sample under that runner. -/
theorem trace_faltering :
    ((sample faltering).process (.sample "a.c") ⟨.sample "a.c", (), []⟩).2.trace =
      [.event ⟨.annotate, 1, 1, (Job.sample "a.c").command.sourcePath⟩,
        .call ((sample faltering).annotateCall (Job.sample "a.c").command (.sample "a.c"))
          (.ok ⟨some 1⟩) ((sample faltering).clear (Job.sample "a.c").command (.sample "a.c"))
          (((sample faltering).clear (Job.sample "a.c").command (.sample "a.c")).put
            ["work", "a__hookpass_org__.c"] (.file [0x2f] false))] := rfl

theorem confined_faltering :
    (sample faltering).Confined
      ((sample faltering).process (.sample "a.c") ⟨.sample "a.c", (), []⟩).2.trace := by
  have hFiles := (sample faltering).files_annotateCall (Job.sample "a.c").command (.sample "a.c")
  have hPlace : (sample faltering).site.place
      (Artifacts.ofCommand (Job.sample "a.c").command).annotated =
        ["work", "a__hookpass_org__.c"] := by decide +kernel
  rw [trace_faltering]
  constructor
  · intro i result found left output hMem hStage hOutput
    obtain ⟨rfl, rfl, rfl, rfl⟩ :
        i = (sample faltering).annotateCall (Job.sample "a.c").command (.sample "a.c") ∧
          result = .ok ⟨some 1⟩ ∧ found = _ ∧ left = _ := by simpa using hMem
    rw [hFiles.2] at hOutput
    obtain rfl := Option.some.inj hOutput
    exact FileTree.AgreeBeside.put (by simp [hPlace]) (by simp) _ _
  · intro i result found left hMem hStage
    obtain ⟨rfl, -⟩ :
        i = (sample faltering).annotateCall (Job.sample "a.c").command (.sample "a.c") ∧ _ := by
      simpa using hMem
    cases hStage

theorem process_undisturbed_faltering :
    (FileTree.sample "a.c").LinkFree ∧
    (sample faltering).Confined
      ((sample faltering).process (.sample "a.c") ⟨.sample "a.c", (), []⟩).2.trace ∧
    ((∀ place ∉ (Artifacts.ofCommand (Job.sample "a.c").command).paths.map
        (sample faltering).site.place,
      ((sample faltering).process (.sample "a.c") ⟨.sample "a.c", (), []⟩).2.tree.get? place =
        (FileTree.sample "a.c").get? place) ∧
    ∀ failure, (sample faltering).allowlist.admits (Job.sample "a.c").command.sourcePath = true →
      CommandView.ofCommand (Job.sample "a.c").command = .error failure →
        (sample faltering).process (.sample "a.c") ⟨.sample "a.c", (), []⟩ =
          (.error failure, ⟨.sample "a.c", (), []⟩)) := by
  have hFree : (FileTree.sample "a.c").LinkFree :=
    FileTree.linkFree_of_entries fun place target => by simp [FileTree.sample]
  exact ⟨hFree, confined_faltering, process_undisturbed (sample faltering) (.sample "a.c")
    (.sample "a.c") () hFree confined_faltering⟩

end CallbackWeave.Pipeline

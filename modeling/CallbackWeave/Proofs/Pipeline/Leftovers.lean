import CallbackWeave.Proofs.Pipeline.Sample
import CallbackWeave.Proofs.Pipeline.SideBySide

/-!
Leftovers of an earlier run. Before anything else happens to an admitted unit its temporary files
are cleared, so that nothing that comes after can tell what stood in their places. Links on the way
to the temporary files are allowed: both trees follow the same ones, since they differ in files
only.
-/

namespace CallbackWeave

/-- Nothing stands at a location, or a file. -/
def Entry.IsPlain (entry : Option Entry) : Prop :=
  entry = none ∨ ∃ content executable, entry = some (.file content executable)

/-- Ways are kept where everything is that is no file. -/
theorem FileTree.keepsWays_of_kept {t other : FileTree}
    (hKept : ∀ place entry, t.get? place = some entry → ¬ Entry.IsPlain (some entry) →
      other.get? place = some entry) : t.KeepsWays other where
  directory place hEntry := hKept place _ hEntry (by simp [Entry.IsPlain])
  link place target hEntry := hKept place _ hEntry (by simp [Entry.IsPlain])

namespace FileSystem

/-- A path names a location: its last name stands there, with an entry or without one. Links on the
way are followed, and one at the last name is not. -/
def Names (fs : FileSystem) (p : Path) (place : Location) : Prop :=
  ∃ entry, fs.locate .entry p = .ok ⟨place, entry⟩

/-- A path that reaches a directory names the entry of its last name there, and nothing else. -/
theorem Reaches.names_iff {fs : FileSystem} {p : Path} {directory place : Location} {name : String}
    (h : fs.Reaches p directory name) : fs.Names p place ↔ place = directory ++ [name] := by
  obtain ⟨left, hLocate⟩ := h.locate_eq
  have hShort : ¬ name.utf8ByteSize > Path.nameLimit := Nat.not_lt.mpr h.nameShort
  have hEntry : fs.locate .entry p =
      .ok ⟨directory ++ [name], fs.tree.get? (directory ++ [name])⟩ := by
    rw [hLocate]
    cases hEntry : fs.tree.get? (directory ++ [name]) with
    | none => simp [FileTree.walk, hShort, hEntry]
    | some entry => cases entry <;> simp [FileTree.walk, hShort, hEntry]
  constructor
  · rintro ⟨entry, hNamed⟩
    obtain ⟨hPlace, -⟩ : directory ++ [name] = place ∧ _ := by
      simpa using hEntry.symm.trans hNamed
    exact hPlace.symm
  · rintro rfl
    exact ⟨_, hEntry⟩

theorem Reaches.names {fs : FileSystem} {p : Path} {directory : Location} {name : String}
    (h : fs.Reaches p directory name) : fs.Names p (directory ++ [name]) :=
  h.names_iff.mpr rfl

variable {site : Site} {t other : FileTree} {p : Path} {above : List Step} {name : String}
  {place : Location}

/-- The location that a path names is the entry of its last name in the directory that it
reaches. -/
theorem names_iff {fs : FileSystem} (hSteps : p.steps = above ++ [.into name]) :
    fs.Names p place ↔ ∃ directory, fs.Reaches p directory name ∧ place = directory ++ [name] := by
  constructor
  · rintro ⟨entry, hLocate⟩
    obtain ⟨directory, hReaches⟩ := exists_reaches_of_locate hSteps hLocate
    exact ⟨directory, hReaches, hReaches.names_iff.mp ⟨entry, hLocate⟩⟩
  · rintro ⟨directory, hReaches, rfl⟩
    exact hReaches.names

/-- A path names the same in a tree that keeps the directories and links. -/
theorem Names.mono (h : Names ⟨site, t⟩ p place) (hSteps : p.steps = above ++ [.into name])
    (hKeeps : t.KeepsWays other) : Names ⟨site, other⟩ p place := by
  obtain ⟨directory, hReaches, hPlace⟩ := (names_iff hSteps).mp h
  exact (names_iff hSteps).mpr ⟨directory, hReaches.mono hKeeps, hPlace⟩

end FileSystem

namespace Artifacts

variable {site : Site} {t other : FileTree} {p : Path} {above : List Step} {name : String}
  {place : Location}

section Clear

variable (hSteps : p.steps = above ++ [.into name])

include hSteps

/-- Clearing a path leaves all alone that the path does not name. -/
theorem get?_clearPath_of_not_names (hOther : ¬ FileSystem.Names ⟨site, t⟩ p place) :
    (clearPath ⟨site, t⟩ p).get? place = t.get? place := by
  rcases clearPath_cases site t hSteps with hSame | ⟨directory, hReaches, hErased⟩
  · rw [hSame]
  · have hPlace : place ≠ directory ++ [name] := fun hSame => hOther (hSame ▸ hReaches.names)
    rw [hErased, FileTree.get?_erase _ _ _ (by simp), if_neg hPlace]

/-- Clearing a path leaves nothing at the location it names, if a file stood there or nothing. -/
theorem get?_clearPath_of_names (hNames : FileSystem.Names ⟨site, t⟩ p place)
    (hPlain : Entry.IsPlain (t.get? place)) : (clearPath ⟨site, t⟩ p).get? place = none := by
  obtain ⟨directory, hReaches, rfl⟩ := (FileSystem.names_iff hSteps).mp hNames
  have hErased : (t.erase (directory ++ [name])).get? (directory ++ [name]) = none := by
    rw [FileTree.get?_erase _ _ _ (by simp), if_pos rfl]
  have hLocate := hReaches.locate_of_entry .target rfl fun target hLink => by
    rcases hPlain with hNone | ⟨content, executable, hFile⟩ <;> simp_all
  rcases hPlain with hNone | ⟨content, executable, hFile⟩
  · rcases clearPath_cases site t hSteps with hSame | ⟨found, hFound, hCleared⟩
    · rw [hSame, hNone]
    · rw [hCleared, hFound.directory_eq hReaches, hErased]
  · have hHolds : FileSystem.holds ⟨site, t⟩ p = true := by
      rw [FileSystem.holds, FileSystem.entry?, hLocate]
      simp [hFile]
    have hRemove : FileSystem.remove ⟨site, t⟩ p = .ok (t.erase (directory ++ [name])) := by
      rw [hReaches.remove_eq]
      simp [hFile]
    rw [clearPath, if_pos hHolds, hRemove]
    exact hErased

/-- A location holds no more than a file once a path has been cleared, if it held no more before. -/
theorem isPlain_clearPath (hPlain : Entry.IsPlain (t.get? place)) :
    Entry.IsPlain ((clearPath ⟨site, t⟩ p).get? place) := by
  by_cases hNames : FileSystem.Names ⟨site, t⟩ p place
  · exact Or.inl (get?_clearPath_of_names hSteps hNames hPlain)
  · rwa [get?_clearPath_of_not_names hSteps hNames]

theorem keepsWays_clearPath
    (hPlain : ∀ place, FileSystem.Names ⟨site, t⟩ p place → Entry.IsPlain (t.get? place)) :
    t.KeepsWays (clearPath ⟨site, t⟩ p) := by
  refine FileTree.keepsWays_of_kept fun place entry hEntry hOther => ?_
  rw [get?_clearPath_of_not_names hSteps fun hNames => hOther (hEntry ▸ hPlain place hNames),
    hEntry]

/-- What a path names once another one has been cleared, it has named before. -/
theorem names_of_names_clearPath {q : Path} {ahead : List Step} {last : String}
    (hOther : q.steps = ahead ++ [.into last])
    (hNames : FileSystem.Names ⟨site, clearPath ⟨site, t⟩ p⟩ q place) :
    FileSystem.Names ⟨site, t⟩ q place :=
  hNames.mono hOther
    ⟨fun _ => get?_of_get?_clearPath hSteps, fun _ _ => get?_of_get?_clearPath hSteps⟩

end Clear

end Artifacts

namespace FileTree

/-- Two trees differ at most in what some paths name, and there each of them holds a file or
nothing. -/
structure DifferAtMost (site : Site) (paths : List Path) (t other : FileTree) : Prop where
  beside : ∀ place, (∀ path ∈ paths, ¬ FileSystem.Names ⟨site, t⟩ path place) →
    t.get? place = other.get? place
  plain : ∀ path ∈ paths, ∀ place, FileSystem.Names ⟨site, t⟩ path place →
    Entry.IsPlain (t.get? place)
  otherPlain : ∀ path ∈ paths, ∀ place, FileSystem.Names ⟨site, other⟩ path place →
    Entry.IsPlain (other.get? place)

namespace DifferAtMost

variable {site : Site} {paths rest : List Path} {first : Path} {t other : FileTree}

/-- No directory and no link is among the differences, so that paths lead to the same directories
in both trees. -/
theorem keepsWays (h : DifferAtMost site paths t other) : t.KeepsWays other := by
  refine keepsWays_of_kept fun place entry hEntry hOther => ?_
  refine (h.beside place fun path hPath hNames => ?_) ▸ hEntry
  exact hOther (hEntry ▸ h.plain path hPath place hNames)

/-- It does not matter by which of the trees the locations are named. -/
theorem names_iff (h : DifferAtMost site paths t other)
    (hSteps : ∀ path ∈ paths, ∃ above name, path.steps = above ++ [.into name]) {path : Path}
    (hPath : path ∈ paths) (place : Location) :
    FileSystem.Names ⟨site, t⟩ path place ↔ FileSystem.Names ⟨site, other⟩ path place := by
  have hForth : ∀ path ∈ paths, ∀ place, FileSystem.Names ⟨site, t⟩ path place →
      FileSystem.Names ⟨site, other⟩ path place := by
    intro path hPath place hNames
    obtain ⟨above, name, hPathSteps⟩ := hSteps path hPath
    exact hNames.mono hPathSteps h.keepsWays
  -- What the first tree names the other one names too, and holds no directory there.
  have hBack : other.KeepsWays t := by
    refine keepsWays_of_kept fun place entry hEntry hOther => ?_
    refine (h.beside place fun path hPath hNames => ?_).trans hEntry
    exact hOther (hEntry ▸ h.otherPlain path hPath place (hForth path hPath place hNames))
  obtain ⟨above, name, hPathSteps⟩ := hSteps path hPath
  exact ⟨hForth path hPath place, fun hNames => hNames.mono hPathSteps hBack⟩

/-- Once the first of the paths has been cleared in both trees, they differ at most in what the
others name. -/
theorem clearPath (h : DifferAtMost site (first :: rest) t other)
    (hSteps : ∀ path ∈ first :: rest, ∃ above name, path.steps = above ++ [.into name]) :
    DifferAtMost site rest (Artifacts.clearPath ⟨site, t⟩ first)
      (Artifacts.clearPath ⟨site, other⟩ first) := by
  obtain ⟨⟨above, name, hFirst⟩, hRest⟩ := List.forall_mem_cons.mp hSteps
  have hKeeps := Artifacts.keepsWays_clearPath hFirst (h.plain first List.mem_cons_self)
  refine ⟨fun place hUnnamed => ?_, fun path hPath place hNames => ?_,
    fun path hPath place hNames => ?_⟩
  -- What the first path names is gone from both trees, and all else is as it was in each.
  · by_cases hNames : FileSystem.Names ⟨site, t⟩ first place
    · have hOther := (h.names_iff hSteps List.mem_cons_self place).mp hNames
      rw [Artifacts.get?_clearPath_of_names hFirst hNames (h.plain _ List.mem_cons_self _ hNames),
        Artifacts.get?_clearPath_of_names hFirst hOther
          (h.otherPlain _ List.mem_cons_self _ hOther)]
    · have hOther := fun hOther => hNames ((h.names_iff hSteps List.mem_cons_self place).mpr hOther)
      rw [Artifacts.get?_clearPath_of_not_names hFirst hNames,
        Artifacts.get?_clearPath_of_not_names hFirst hOther]
      refine h.beside place (List.forall_mem_cons.mpr ⟨hNames, fun path hPath hMore => ?_⟩)
      obtain ⟨above, name, hPathSteps⟩ := hRest path hPath
      exact hUnnamed path hPath (hMore.mono hPathSteps hKeeps)
  · obtain ⟨ahead, last, hPathSteps⟩ := hRest path hPath
    exact Artifacts.isPlain_clearPath hFirst (h.plain path (List.mem_cons_of_mem _ hPath) place
      (Artifacts.names_of_names_clearPath hFirst hPathSteps hNames))
  · obtain ⟨ahead, last, hPathSteps⟩ := hRest path hPath
    exact Artifacts.isPlain_clearPath hFirst (h.otherPlain path (List.mem_cons_of_mem _ hPath) place
      (Artifacts.names_of_names_clearPath hFirst hPathSteps hNames))

/-- Once all of the paths have been cleared in both trees, these are alike. -/
theorem clearPaths (h : DifferAtMost site paths t other)
    (hSteps : ∀ path ∈ paths, ∃ above name, path.steps = above ++ [.into name]) :
    Artifacts.clearPaths site t paths ≈ Artifacts.clearPaths site other paths := by
  induction paths generalizing t other with
  | nil => exact fun place => h.beside place (List.forall_mem_nil _)
  | cons first rest ih =>
      rw [Artifacts.clearPaths_cons, Artifacts.clearPaths_cons]
      exact ih (h.clearPath hSteps) fun path hPath => hSteps path (List.mem_cons_of_mem _ hPath)

/-- Clearing the temporary files of a command makes trees alike that differ at most in these. -/
theorem clear {c : CompileCommand} (h : DifferAtMost site (Artifacts.ofCommand c).paths t other) :
    (Artifacts.ofCommand c).clear ⟨site, t⟩ ≈ (Artifacts.ofCommand c).clear ⟨site, other⟩ :=
  h.clearPaths fun _ hPath => ⟨_, Artifacts.exists_steps_of_mem_paths hPath⟩

end DifferAtMost

end FileTree

namespace Pipeline

variable {σ : Type}

/-- The stages of a unit after its temporary files have been cleared for the first time. -/
def stagesOnceClear (p : Pipeline σ) (job : Job) (view : CommandView) : Action σ Outcome := do
  p.announce job .annotate
  p.invoke job (p.annotateCall job.command view)
  let annotated := (p.files (← Action.tree)).holds (Artifacts.ofCommand job.command).annotated
  p.provideMerged job view annotated
  p.conclude job view annotated

theorem stages_eq (p : Pipeline σ) (job : Job) (view : CommandView) (w : World σ) :
    p.stages job view w =
      p.stagesOnceClear job view { w with tree := p.clear job.command w.tree } := rfl

theorem alike_stagesOnceClear {states : σ → σ → Prop} (p : Pipeline σ) (job : Job)
    (view : CommandView) (hRunner : p.runner.GoesByContent states) :
    Action.Alike states (p.stagesOnceClear job view) (p.stagesOnceClear job view) := by
  refine (alike_announce p job .annotate).bind fun _ => (alike_invoke p job hRunner _).bind fun _ =>
    Action.Alike.tree fun t other hTree => ?_
  have hAnnotated : (p.files t).holds (Artifacts.ofCommand job.command).annotated =
      (p.files other).holds (Artifacts.ofCommand job.command).annotated :=
    FileSystem.holds_congr hTree p.site _
  rw [hAnnotated]
  exact (alike_provideMerged p job view hRunner _).bind fun _ => alike_conclude p job view hRunner _

/-- The stages of a unit end alike if the first clearing makes the trees alike. -/
theorem alike_stages {states : σ → σ → Prop} (p : Pipeline σ) (job : Job) (view : CommandView)
    (hRunner : p.runner.GoesByContent states) {w other : World σ}
    (hClear : p.clear job.command w.tree ≈ p.clear job.command other.tree)
    (hState : states w.state other.state)
    (hTrace : List.Forall₂ Happening.Alike w.trace other.trace) :
    (p.stages job view w).1 = (p.stages job view other).1 ∧
      (p.stages job view w).2.Alike states (p.stages job view other).2 := by
  rw [p.stages_eq job view w, p.stages_eq job view other]
  generalize p.clear job.command w.tree = cleared at hClear ⊢
  generalize p.clear job.command other.tree = otherCleared at hClear ⊢
  exact alike_stagesOnceClear p job view hRunner _ _ ⟨hClear, hState, hTrace⟩

/-- Leftovers of an earlier run have no influence. Let two trees differ at most in what the paths of
the temporary files of an admitted unit name, and let each of them hold a file or nothing there.
Under a runner that goes by what a tree holds and by its own state, the unit comes to the same
result from both. It makes the same calls and enters the same stages in the same order, each call
finds and leaves the same, and so does the unit. -/
theorem process_leftovers (p : Pipeline σ) (job : Job) (w other : World σ) {view : CommandView}
    {states : σ → σ → Prop} (hAdmitted : p.allowlist.admits job.command.sourcePath = true)
    (hTokens : CommandView.ofCommand job.command = .ok view)
    (hRunner : p.runner.GoesByContent states)
    (hTrees : FileTree.DifferAtMost p.site (Artifacts.ofCommand job.command).paths w.tree
      other.tree)
    (hState : states w.state other.state)
    (hTrace : List.Forall₂ Happening.Alike w.trace other.trace) :
    (p.process job w).1 = (p.process job other).1 ∧
      Happening.calls (p.process job w).2.trace = Happening.calls (p.process job other).2.trace ∧
      Happening.events (p.process job w).2.trace = Happening.events (p.process job other).2.trace ∧
      (p.process job w).2.Alike states (p.process job other).2 := by
  have hClear : p.clear job.command w.tree ≈ p.clear job.command other.tree := by
    dsimp only [clear, files]
    exact hTrees.clear
  obtain ⟨hResult, hEnd⟩ := alike_stages p job view hRunner hClear hState hTrace
  have hLast := p.clear_congr job.command _ _ hEnd.tree
  rw [p.process_eq hAdmitted hTokens w, p.process_eq hAdmitted hTokens other]
  generalize p.clear job.command (p.stages job view w).2.tree = cleared at hLast ⊢
  generalize p.clear job.command (p.stages job view other).2.tree = otherCleared at hLast ⊢
  exact ⟨hResult, Happening.calls_eq hEnd.trace, Happening.events_eq hEnd.trace, hLast, hEnd.state,
    hEnd.trace⟩

/-- A runner that writes the annotated file of the sample, and fails if it is there already. -/
def wary : Runner Unit := fun state _ tree =>
  if tree.get? ["work", "a__hookpass_org__.c"] = none then
    (.ok ⟨some 0⟩, state, tree.put ["work", "a__hookpass_org__.c"] (.file [0x2f] false))
  else (.ok ⟨some 1⟩, state, tree)

theorem goesByContent_wary : Runner.GoesByContent wary (· = ·) := by
  intro state otherState i t other hState hTree
  have hEntry : t.get? ["work", "a__hookpass_org__.c"] =
      other.get? ["work", "a__hookpass_org__.c"] := hTree _
  unfold wary
  rw [hEntry]
  split_ifs
  · exact ⟨rfl, hState, FileTree.put_congr hTree _ _⟩
  · exact ⟨rfl, hState, hTree⟩

end Pipeline

/-- The tree of the sample with what an earlier run has left of the annotated file. -/
def FileTree.stale : FileTree :=
  (FileTree.sample "a.c").put ["work", "a__hookpass_org__.c"] (.file [0x42] false)

/-- The names of the temporary files of the sample. -/
def Artifacts.sampleNames : List String :=
  ["a__hookpass_org__.c", "a__hookpass_pp__.c", "a__hookpass_new__.c"]

/-- In a tree that has the directory of the sample, its temporary files are named there. -/
theorem FileSystem.names_sample {t : FileTree} (hWork : t.get? ["work"] = some .directory) :
    ∀ name ∈ Artifacts.sampleNames, ∀ place,
      Names ⟨.sample, t⟩ (Job.sample name).command.sourcePath place ↔ place = ["work", name] := by
  intro name hName place
  have hEntry : EntryName name ∧ '\x00' ∉ name.toList ∧ name.utf8ByteSize ≤ Path.nameLimit := by
    simp only [Artifacts.sampleNames, List.mem_cons, List.not_mem_nil, or_false] at hName
    rcases hName with rfl | rfl | rfl <;>
      exact ⟨⟨by decide, by decide, by decide, by decide⟩, by decide, by decide⟩
  exact (reaches_work hEntry.1 hEntry.2.1 hEntry.2.2 hWork).names_iff

theorem FileTree.differAtMost_stale :
    DifferAtMost .sample (Artifacts.ofCommand (Job.sample "a.c").command).paths (.sample "a.c")
      stale := by
  have hPaths : (Artifacts.ofCommand (Job.sample "a.c").command).paths =
      Artifacts.sampleNames.map fun name => (Job.sample name).command.sourcePath := by
    decide +kernel
  have hNothing : ∀ name ∈ Artifacts.sampleNames, (sample "a.c").get? ["work", name] = none := by
    decide +kernel
  have hNames := FileSystem.names_sample (FileTree.get?_sample "a.c")
  have hStaleNames := FileSystem.names_sample
    (show stale.get? ["work"] = some .directory from rfl)
  rw [hPaths]
  refine ⟨fun place hUnnamed => ?_, fun path hPath place hNamed => ?_,
    fun path hPath place hNamed => ?_⟩
  · have hPlace : place ≠ ["work", "a__hookpass_org__.c"] := fun hSame =>
      hUnnamed _ (List.mem_map_of_mem List.mem_cons_self)
        ((hNames _ List.mem_cons_self place).mpr hSame)
    rw [stale, get?_put _ _ _ _ (by simp), if_neg hPlace]
  · obtain ⟨name, hName, rfl⟩ := List.mem_map.mp hPath
    obtain rfl := (hNames name hName place).mp hNamed
    exact Or.inl (hNothing name hName)
  · obtain ⟨name, hName, rfl⟩ := List.mem_map.mp hPath
    obtain rfl := (hStaleNames name hName place).mp hNamed
    simp only [Artifacts.sampleNames, List.mem_cons, List.not_mem_nil, or_false] at hName
    rcases hName with rfl | rfl | rfl
    · exact Or.inr ⟨[0x42], false, by decide +kernel⟩
    · exact Or.inl (by decide +kernel)
    · exact Or.inl (by decide +kernel)

namespace Pipeline

theorem process_leftovers_stale :
    let p := sample wary
    let w : World Unit := ⟨.sample "a.c", (), []⟩
    let other : World Unit := ⟨.stale, (), []⟩
    p.allowlist.admits (Job.sample "a.c").command.sourcePath = true ∧
      CommandView.ofCommand (Job.sample "a.c").command = .ok (.sample "a.c") ∧
      p.runner.GoesByContent (· = ·) ∧
      FileTree.DifferAtMost p.site (Artifacts.ofCommand (Job.sample "a.c").command).paths w.tree
        other.tree ∧
      (p.process (.sample "a.c") w).1 = (p.process (.sample "a.c") other).1 ∧
      Happening.calls (p.process (.sample "a.c") w).2.trace =
        Happening.calls (p.process (.sample "a.c") other).2.trace ∧
      Happening.events (p.process (.sample "a.c") w).2.trace =
        Happening.events (p.process (.sample "a.c") other).2.trace ∧
      (p.process (.sample "a.c") w).2.Alike (· = ·) (p.process (.sample "a.c") other).2 := by
  intro p w other
  exact ⟨rfl, rfl, goesByContent_wary, FileTree.differAtMost_stale,
    process_leftovers p (.sample "a.c") w other rfl rfl goesByContent_wary
      FileTree.differAtMost_stale rfl .nil⟩

end Pipeline

end CallbackWeave

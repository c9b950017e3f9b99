import CallbackWeave.Proofs.FileTree.LastName
import CallbackWeave.Proofs.Pipeline.Actions
import CallbackWeave.Proofs.Pipeline.ArtifactPaths
import CallbackWeave.Proofs.Pipeline.Tools

/-!
The clearing of temporary files. Each path is cleared by erasing the entry at its last name, so that
a link goes and what it leads to stays. Clearing one path makes no other path lead to a file again,
and the last thing that happens to an admitted unit is that its three paths are cleared.
-/

namespace CallbackWeave

/-- A path leads to nothing, or to a directory. -/
def FileSystem.NoFile (fs : FileSystem) (p : Path) : Prop :=
  ∀ entry, fs.entry? p = some entry → entry = .directory

namespace Artifacts

variable {site : Site} {t : FileTree} {p : Path} {above : List Step} {name : String}

/-- Clearing a path changes nothing, or erases the entry at its last name. -/
theorem clearPath_cases (site : Site) (t : FileTree) (hSteps : p.steps = above ++ [.into name]) :
    clearPath ⟨site, t⟩ p = t ∨
      ∃ directory, (⟨site, t⟩ : FileSystem).Reaches p directory name ∧
        clearPath ⟨site, t⟩ p = t.erase (directory ++ [name]) := by
  unfold clearPath
  split_ifs
  · split
    next tree hRemove =>
      obtain ⟨directory, hReaches, hErased⟩ := FileSystem.exists_reaches_of_remove hSteps hRemove
      exact Or.inr ⟨directory, hReaches, hErased⟩
    next => exact Or.inl rfl
  · exact Or.inl rfl

/-- Clearing a path adds nothing. -/
theorem get?_of_get?_clearPath (hSteps : p.steps = above ++ [.into name]) {place : Location}
    {entry : Entry}
    (hEntry : (clearPath ⟨site, t⟩ p).get? place = some entry) : t.get? place = some entry := by
  rcases clearPath_cases site t hSteps with hSame | ⟨directory, -, hErased⟩
  · rwa [← hSame]
  · rw [hErased] at hEntry
    exact FileTree.get?_of_get?_erase (by simp) hEntry

/-- A path that has been cleared leads to no file, not even through a link. -/
theorem noFile_clearPath (hSteps : p.steps = above ++ [.into name]) :
    (⟨site, clearPath ⟨site, t⟩ p⟩ : FileSystem).NoFile p := by
  intro entry hEntry
  unfold clearPath at hEntry
  split_ifs at hEntry with hHolds
  · split at hEntry
    next tree hRemove =>
      obtain ⟨directory, hReaches, rfl⟩ := FileSystem.exists_reaches_of_remove hSteps hRemove
      rw [hReaches.entry?_erase] at hEntry
      cases hEntry
    next cause hRemove =>
      -- What can be found and not be removed is a directory.
      obtain ⟨place, hLocate⟩ := FileSystem.entry?_eq_some_iff.mp hEntry
      obtain ⟨directory, hReaches⟩ := FileSystem.exists_reaches_of_locate hSteps hLocate
      rw [hReaches.remove_eq] at hRemove
      split at hRemove
      next hNone =>
        rw [hReaches.locate_of_entry .target hNone (by simp)] at hLocate
        cases hLocate
      next hDirectory =>
        rw [hReaches.locate_of_entry .target hDirectory (by simp)] at hLocate
        cases hLocate
        rfl
      next => cases hRemove
  · rw [FileSystem.holds, hEntry] at hHolds
    exact absurd rfl hHolds

/-- The tree after some paths have been cleared, one after another. -/
def clearPaths (site : Site) (t : FileTree) (paths : List Path) : FileTree :=
  paths.foldl (fun tree path => Artifacts.clearPath ⟨site, tree⟩ path) t

@[simp] theorem clearPaths_cons (site : Site) (t : FileTree) (first : Path) (rest : List Path) :
    clearPaths site t (first :: rest) =
      clearPaths site (Artifacts.clearPath ⟨site, t⟩ first) rest := rfl

end Artifacts

namespace FileSystem.NoFile

variable {site : Site} {t : FileTree} {p q : Path} {above : List Step} {name : String}

/-- A path that leads to no file still leads to none after another one has been cleared. -/
theorem clearPath (h : (⟨site, t⟩ : FileSystem).NoFile q)
    (hSteps : p.steps = above ++ [.into name]) :
    (⟨site, Artifacts.clearPath ⟨site, t⟩ p⟩ : FileSystem).NoFile q := by
  intro entry hEntry
  rcases Artifacts.clearPath_cases site t hSteps with hSame | ⟨directory, -, hErased⟩
  · exact h entry (hSame ▸ hEntry)
  · rw [hErased] at hEntry
    exact h entry (FileSystem.entry?_of_entry?_erase (by simp) hEntry)

/-- A path that leads to no file still leads to none after others have been cleared. -/
theorem clearPaths {paths : List Path} (h : (⟨site, t⟩ : FileSystem).NoFile q)
    (hPaths : ∀ path ∈ paths, ∃ above name, path.steps = above ++ [.into name]) :
    (⟨site, Artifacts.clearPaths site t paths⟩ : FileSystem).NoFile q := by
  induction paths generalizing t with
  | nil => exact h
  | cons path rest ih =>
      obtain ⟨⟨above, name, hSteps⟩, hRest⟩ := List.forall_mem_cons.mp hPaths
      rw [Artifacts.clearPaths_cons]
      exact ih (h.clearPath hSteps) hRest

end FileSystem.NoFile

namespace Artifacts

variable {site : Site} {t : FileTree}

/-- Of the paths that have been cleared none leads to a file at the end. -/
theorem noFile_clearPaths {paths : List Path}
    (hPaths : ∀ path ∈ paths, ∃ above name, path.steps = above ++ [.into name]) :
    ∀ path ∈ paths, (⟨site, clearPaths site t paths⟩ : FileSystem).NoFile path := by
  induction paths generalizing t with
  | nil => simp
  | cons first rest ih =>
      obtain ⟨⟨above, name, hSteps⟩, hRest⟩ := List.forall_mem_cons.mp hPaths
      intro path hMem
      rw [clearPaths_cons]
      rcases List.mem_cons.mp hMem with rfl | hMem
      · exact (noFile_clearPath hSteps).clearPaths hRest
      · exact ih hRest path hMem

/-- What clearing each of the paths preserves, clearing all of them preserves. -/
theorem clear_preserves {c : CompileCommand} {site : Site} (property : FileTree → Prop)
    (hStep : ∀ path ∈ (ofCommand c).paths, ∀ t, property t → property (clearPath ⟨site, t⟩ path))
    {t : FileTree} (h : property t) : property ((ofCommand c).clear ⟨site, t⟩) :=
  List.foldlRecOn _ _ h fun t hStart path hPath => hStep path hPath t hStart

/-- Once the temporary files of a command have been cleared, none of the three leads to a file. -/
theorem noFile_clear (c : CompileCommand) (site : Site) (t : FileTree) :
    (⟨site, (ofCommand c).clear ⟨site, t⟩⟩ : FileSystem).NoFile (ofCommand c).annotated ∧
    (⟨site, (ofCommand c).clear ⟨site, t⟩⟩ : FileSystem).NoFile (ofCommand c).expanded ∧
    (⟨site, (ofCommand c).clear ⟨site, t⟩⟩ : FileSystem).NoFile (ofCommand c).merged := by
  have hCleared : ∀ path ∈ (ofCommand c).paths,
      (⟨site, (ofCommand c).clear ⟨site, t⟩⟩ : FileSystem).NoFile path :=
    noFile_clearPaths fun _ hPath => ⟨_, exists_steps_of_mem_paths hPath⟩
  exact ⟨hCleared _ (by simp [paths]), hCleared _ (by simp [paths]), hCleared _ (by simp [paths])⟩

end Artifacts

/-- However an admitted unit ends, and whatever the tools have made of the tree, the path of the
annotated file leads to no file then, and neither do those of the expanded and the merged one. -/
theorem Pipeline.noFile_process {σ : Type} (p : Pipeline σ) (job : Job) (w : World σ)
    {view : CommandView} (hAdmitted : p.allowlist.admits job.command.sourcePath = true)
    (hTokens : CommandView.ofCommand job.command = .ok view) :
    (p.files (p.process job w).2.tree).NoFile (Artifacts.ofCommand job.command).annotated ∧
    (p.files (p.process job w).2.tree).NoFile (Artifacts.ofCommand job.command).expanded ∧
    (p.files (p.process job w).2.tree).NoFile (Artifacts.ofCommand job.command).merged := by
  rw [p.process_eq hAdmitted hTokens]
  dsimp only [files, clear]
  exact Artifacts.noFile_clear job.command p.site _

/-- A runner that makes the temporary files of the sample links to one another, and then fails. -/
def Pipeline.entangling : Runner Unit := fun state _ tree =>
  (.ok ⟨some 1⟩, state,
    ((tree.put ["work", "a__hookpass_org__.c"] (.link ⟨"a__hookpass_pp__.c"⟩)).put
      ["work", "a__hookpass_pp__.c"] (.link ⟨"a__hookpass_new__.c"⟩)).put
        ["work", "a__hookpass_new__.c"] (.file [] false))

theorem Pipeline.noFile_process_entangling :
    (sample entangling).allowlist.admits (Job.sample "a.c").command.sourcePath = true ∧
    CommandView.ofCommand (Job.sample "a.c").command = .ok (.sample "a.c") ∧
    ((sample entangling).files
      ((sample entangling).process (.sample "a.c") ⟨.sample "a.c", (), []⟩).2.tree).NoFile
        (Artifacts.ofCommand (Job.sample "a.c").command).annotated ∧
    ((sample entangling).files
      ((sample entangling).process (.sample "a.c") ⟨.sample "a.c", (), []⟩).2.tree).NoFile
        (Artifacts.ofCommand (Job.sample "a.c").command).expanded ∧
    ((sample entangling).files
      ((sample entangling).process (.sample "a.c") ⟨.sample "a.c", (), []⟩).2.tree).NoFile
        (Artifacts.ofCommand (Job.sample "a.c").command).merged :=
  ⟨rfl, rfl, noFile_process (sample entangling) (.sample "a.c") ⟨.sample "a.c", (), []⟩ rfl rfl⟩

end CallbackWeave

import CallbackWeave.Proofs.FileTree.Place
import CallbackWeave.Proofs.Pipeline.Clearing

/-!
What the pipeline itself changes in a tree that had no link: entries at the locations of the
temporary files and nothing beside them. The tools may have left links at those locations in the
meantime; these stand too deep to lead a temporary file astray.
-/

namespace CallbackWeave

namespace FileTree

/-- Two trees hold the same beside some locations. -/
def AgreeBeside (places : List Location) (t other : FileTree) : Prop :=
  ∀ place ∉ places, other.get? place = t.get? place

namespace AgreeBeside

variable {places : List Location} {t middle other : FileTree}

theorem refl (places : List Location) (t : FileTree) : AgreeBeside places t t := fun _ _ => rfl

theorem trans (h : AgreeBeside places t middle) (hOther : AgreeBeside places middle other) :
    AgreeBeside places t other :=
  fun place hPlace => (hOther place hPlace).trans (h place hPlace)

theorem mono {more : List Location} (h : AgreeBeside places t other) (hMore : places ⊆ more) :
    AgreeBeside more t other :=
  fun place hPlace => h place fun hMem => hPlace (hMore hMem)

theorem put {place : Location} (hMem : place ∈ places) (hPlace : place ≠ []) (t : FileTree)
    (entry : Entry) : AgreeBeside places t (t.put place entry) := by
  intro other hOther
  rw [get?_put _ _ _ _ hPlace, if_neg (ne_of_mem_of_not_mem hMem hOther).symm]

theorem erase {place : Location} (hMem : place ∈ places) (hPlace : place ≠ []) (t : FileTree) :
    AgreeBeside places t (t.erase place) := by
  intro other hOther
  rw [get?_erase _ _ _ hPlace, if_neg (ne_of_mem_of_not_mem hMem hOther).symm]

end AgreeBeside

end FileTree

namespace FileSystem

theorem tree_of_fill {fs : FileSystem} {spot : Spot} {content : Bytes} {executable : Bool}
    {tree : FileTree} (hFill : fs.fill spot content executable = .ok tree) :
    tree = fs.tree ∨ tree = fs.tree.put spot.place (.file content executable) := by
  unfold fill at hFill
  split at hFill
  · split_ifs at hFill
    exact Or.inl (Except.ok.inj hFill).symm
  · exact Or.inl (Except.ok.inj hFill).symm
  · exact Or.inr (Except.ok.inj hFill).symm

/-- A copy changes at most the entry to which its target leads. -/
theorem exists_spot_of_copy {fs : FileSystem} {source target : Path} {tree : FileTree}
    (hCopy : fs.copy source target = .ok tree) :
    ∃ spot, fs.locate .writing target = .ok spot ∧
      (tree = fs.tree ∨ ∃ content executable,
        tree = fs.tree.put spot.place (.file content executable)) := by
  simp only [copy, bind, Except.bind] at hCopy
  split at hCopy
  next => cases hCopy
  next found hFound =>
    split at hCopy
    next => cases hCopy
    next content executable hEntry hDevice =>
      split at hCopy
      next => cases hCopy
      next spot hWritable =>
        refine ⟨spot, (locate_of_writable hWritable).1, ?_⟩
        exact (tree_of_fill hCopy).imp_right fun hPut => ⟨_, _, hPut⟩
    next => cases hCopy

end FileSystem

namespace Artifacts

/-- The location that the directory of the temporary files spells. -/
@[irreducible] def home (site : Site) (c : CompileCommand) : Location :=
  (directory c).steps.foldl Step.follow
    (if (directory c).absolute then [] else site.workingDirectory)

/-- The locations that the paths of the temporary files spell. -/
def places (site : Site) (c : CompileCommand) : List Location := (ofCommand c).paths.map site.place

theorem place_beside (site : Site) (c : CompileCommand) {tag : String} (hTag : '/' ∉ tag.toList) :
    site.place (beside c tag) = home site c ++ [fileName c tag] := by
  obtain ⟨hSteps, hAbsolute⟩ := steps_beside c hTag
  unfold home
  simp only [Site.place, hSteps, hAbsolute, List.foldl_append, List.foldl_cons, List.foldl_nil,
    Step.follow]

theorem mem_places (site : Site) {c : CompileCommand} {path : Path}
    (hPath : path ∈ (ofCommand c).paths) : site.place path ∈ places site c :=
  List.mem_map_of_mem hPath

/-- The locations of the temporary files differ in their last names only. -/
theorem eq_of_mem_places {site : Site} {c : CompileCommand} {place : Location}
    (hPlace : place ∈ places site c) : ∃ name, place = home site c ++ [name] := by
  obtain ⟨path, hPath, rfl⟩ := List.mem_map.mp hPlace
  obtain ⟨tag, hTag, rfl⟩ := exists_tag_of_mem_paths hPath
  exact ⟨_, place_beside site c hTag⟩

/-- The merged file does not stand where the annotated one does. -/
theorem place_merged_ne_annotated (site : Site) (c : CompileCommand) :
    site.place (ofCommand c).merged ≠ site.place (ofCommand c).annotated := by
  rw [ofCommand_eq, place_beside site c (by decide), place_beside site c (by decide)]
  intro hSame
  have hNames : fileName c "new" = fileName c "org" := by simpa using hSame
  exact absurd (fileName_injective c hNames) (by decide)

section

variable {site : Site} {c : CompileCommand} {before t : FileTree}

/-- Every link of a tree that had none beside the temporary files stands as deep as these. -/
theorem length_le_of_link (hFree : before.LinkFree)
    (hAgree : FileTree.AgreeBeside (places site c) before t) {other : Location} {target : Path}
    (hLink : t.get? other = some (.link target)) : (home site c).length + 1 ≤ other.length := by
  by_cases hMem : other ∈ places site c
  · obtain ⟨name, rfl⟩ := eq_of_mem_places hMem
    simp
  · rw [hAgree other hMem] at hLink
    exact absurd hLink (hFree other target)

/-- As far as the path of a temporary file leads anywhere, it leads to the location it spells. -/
theorem reached_eq_place (hFree : before.LinkFree)
    (hAgree : FileTree.AgreeBeside (places site c) before t) {path : Path}
    (hPath : path ∈ (ofCommand c).paths) {reached : Location} {name : String}
    (hReaches : (⟨site, t⟩ : FileSystem).Reaches path reached name) :
    reached ++ [name] = site.place path := by
  obtain ⟨last, hSteps⟩ := exists_steps_of_mem_paths hPath
  obtain ⟨spelled, hSpelled⟩ := eq_of_mem_places (mem_places site hPath)
  refine hReaches.place_eq hSteps fun other target hLink => ?_
  rw [hSpelled]
  simpa using length_le_of_link hFree hAgree hLink

/-- Clearing one temporary file changes nothing beside the temporary files. -/
theorem agreeBeside_clearPath (hFree : before.LinkFree)
    (hAgree : FileTree.AgreeBeside (places site c) before t) {path : Path}
    (hPath : path ∈ (ofCommand c).paths) :
    FileTree.AgreeBeside (places site c) before (clearPath ⟨site, t⟩ path) := by
  obtain ⟨name, hSteps⟩ := exists_steps_of_mem_paths hPath
  rcases clearPath_cases site t hSteps with hSame | ⟨reached, hReaches, hErased⟩
  · rwa [hSame]
  · rw [hErased, reached_eq_place hFree hAgree hPath hReaches]
    obtain ⟨last, hPlace⟩ := eq_of_mem_places (mem_places site hPath)
    exact hAgree.trans (.erase (mem_places site hPath) (by simp [hPlace]) t)

/-- Clearing the temporary files changes nothing beside them. -/
theorem agreeBeside_clear (hFree : before.LinkFree)
    (hAgree : FileTree.AgreeBeside (places site c) before t) :
    FileTree.AgreeBeside (places site c) before ((ofCommand c).clear ⟨site, t⟩) :=
  clear_preserves (FileTree.AgreeBeside (places site c) before)
    (fun _ hPath _ hStart => agreeBeside_clearPath hFree hStart hPath) hAgree

/-- A copy to a temporary file that is no link changes nothing beside the temporary files. -/
theorem agreeBeside_copy (hFree : before.LinkFree)
    (hAgree : FileTree.AgreeBeside (places site c) before t) {path : Path}
    (hPath : path ∈ (ofCommand c).paths)
    (hLink : ∀ target, t.get? (site.place path) ≠ some (.link target)) {source : Path}
    {tree : FileTree} (hCopy : (⟨site, t⟩ : FileSystem).copy source path = .ok tree) :
    FileTree.AgreeBeside (places site c) before tree := by
  obtain ⟨spot, hLocate, hTree⟩ := FileSystem.exists_spot_of_copy hCopy
  obtain ⟨name, hSteps⟩ := exists_steps_of_mem_paths hPath
  obtain ⟨reached, hReaches⟩ := FileSystem.exists_reaches_of_locate hSteps hLocate
  have hPlace := reached_eq_place hFree hAgree hPath hReaches
  rcases hTree with rfl | ⟨content, executable, rfl⟩
  · exact hAgree
  · rw [hReaches.locate_of_entry .writing rfl fun target => hPlace ▸ hLink target] at hLocate
    obtain rfl := Except.ok.inj hLocate
    obtain ⟨last, hLast⟩ := eq_of_mem_places (mem_places site hPath)
    rw [hPlace]
    exact hAgree.trans (.put (mem_places site hPath) (by simp [hLast]) t _)

end

/-- Clearing temporary files adds nothing. -/
theorem get?_of_get?_clear {c : CompileCommand} {site : Site} {t : FileTree} {place : Location}
    {entry : Entry} (hEntry : ((ofCommand c).clear ⟨site, t⟩).get? place = some entry) :
    t.get? place = some entry := by
  revert hEntry
  refine clear_preserves (fun cleared => cleared.get? place = some entry →
    t.get? place = some entry) (fun path hPath cleared hStart hEntry => ?_) id
  obtain ⟨name, hSteps⟩ := exists_steps_of_mem_paths hPath
  exact hStart (get?_of_get?_clearPath hSteps hEntry)

end Artifacts

end CallbackWeave

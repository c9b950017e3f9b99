import CallbackWeave.Proofs.FileTree.Writing

/-!
Trees that differ in what their files hold. Which paths lead to something is told by the names in a
tree and by its links, and not by the content of any file.
-/

namespace CallbackWeave

namespace FileTree

/-- Whatever stands in a tree stands in another one too, except that a file may hold something
else there. -/
structure KeepsNames (t other : FileTree) : Prop extends t.KeepsWays other where
  file : ∀ place content executable, t.get? place = some (.file content executable) →
    ∃ newContent newMode, other.get? place = some (.file newContent newMode)

variable {t other : FileTree}

theorem KeepsNames.exists_entry (h : t.KeepsNames other) {place : Location} {entry : Entry}
    (hEntry : t.get? place = some entry) : ∃ kept, other.get? place = some kept := by
  cases entry with
  | directory => exact ⟨_, h.directory _ hEntry⟩
  | file content executable =>
      obtain ⟨_, _, hFile⟩ := h.file _ _ _ hEntry
      exact ⟨_, hFile⟩
  | link target => exact ⟨_, h.link _ _ hEntry⟩

/-- Where a path leads to something in a tree, it leads to something in every tree that has the
same names. -/
theorem KeepsNames.exists_walk (h : t.KeepsNames other) {links : Nat} {place reached : Location}
    {steps : List Step} {entry : Entry}
    (hWalk : t.walk .target links place steps = .ok ⟨reached, some entry⟩) :
    ∃ kept, other.walk .target links place steps = .ok ⟨reached, some kept⟩ := by
  generalize hPurpose : Purpose.target = purpose at hWalk ⊢
  have hTarget : ¬ purpose = .writing ∧ (purpose == Purpose.entry) = false := by
    subst hPurpose
    exact ⟨by simp, rfl⟩
  fun_induction walk t purpose links place steps with
  | case1 links place =>
      obtain ⟨rfl, hEntry⟩ : place = reached ∧ t.get? place = some entry := by
        simpa using hWalk
      obtain ⟨kept, hKept⟩ := h.exists_entry hEntry
      exact ⟨kept, by rw [walk, hKept]⟩
  | case2 links place rest ih => simpa only [walk] using ih hWalk
  | case3 links place rest ih => simpa only [walk] using ih hWalk
  | case4 links place rest ih => simpa only [walk] using ih hWalk
  | case9 links place name rest hWriting hShort next hEntry ih =>
      simpa [walk, hTarget, hShort, next, h.directory _ hEntry] using ih hWalk
  | case10 links place name rest hWriting hShort next content executable hEntry hLast =>
      obtain ⟨newContent, newMode, hFile⟩ := h.file _ _ _ hEntry
      obtain ⟨rfl, -⟩ : next = reached ∧ _ := by simpa using hWalk
      exact ⟨.file newContent newMode, by simp [walk, hTarget, hShort, next, hFile, hLast]⟩
  | case7 => simp at hWalk
  | case12 links place name rest hWriting hShort next target hEntry hLast =>
      simp [hTarget] at hLast
  | case15 place name rest hWriting hShort next target hEntry hLast hSome links ih =>
      simpa [walk, hTarget, hShort, next, h.link _ _ hEntry, hLast, hSome] using ih hWalk
  | _ => cases hWalk

/-- A file that is written over keeps the names of the tree, and brings none. -/
theorem keepsNames_put_file {place : Location} {content newContent : Bytes}
    {executable newMode : Bool} (hPlace : place ≠ [])
    (hFile : t.get? place = some (.file content executable)) :
    t.KeepsNames (t.put place (.file newContent newMode)) ∧
      (t.put place (.file newContent newMode)).KeepsNames t := by
  have hDirectory : t.get? place ≠ some .directory := by simp [hFile]
  have hLink : ∀ target, t.get? place ≠ some (.link target) := by simp [hFile]
  have hPut := fun found => t.get?_put place found (.file newContent newMode) hPlace
  have hOther : ∀ {found entry}, (t.put place (.file newContent newMode)).get? found = some entry →
      found ≠ place → t.get? found = some entry := by
    intro found entry hEntry hFound
    rwa [hPut, if_neg hFound] at hEntry
  have hThere : (t.put place (.file newContent newMode)).get? place =
      some (.file newContent newMode) := by rw [hPut, if_pos rfl]
  refine ⟨⟨keepsWays_put_file hPlace hDirectory hLink newContent newMode, ?_⟩, ⟨?_, ?_⟩, ?_⟩
  · intro found old mode hEntry
    by_cases hFound : found = place
    · exact ⟨_, _, by rw [hFound, hThere]⟩
    · exact ⟨_, _, by rw [hPut, if_neg hFound, hEntry]⟩
  · intro found hEntry
    refine hOther hEntry ?_
    rintro rfl
    cases hThere.symm.trans hEntry
  · intro found target hEntry
    refine hOther hEntry ?_
    rintro rfl
    cases hThere.symm.trans hEntry
  · intro found old mode hEntry
    by_cases hFound : found = place
    · exact ⟨_, _, by rw [hFound, hFile]⟩
    · exact ⟨_, _, hOther hEntry hFound⟩

end FileTree

namespace FileSystem

variable {t other : FileTree} {site : Site}

theorem holds_iff {fs : FileSystem} {p : Path} : fs.holds p = true ↔
    '\x00' ∉ p.text.toList ∧ p.byteLength ≤ Path.lengthLimit ∧ p.text.isEmpty = false ∧
      ∃ place entry, fs.tree.walk .target FileTree.linkLimit (fs.start p) p.steps =
        .ok ⟨place, some entry⟩ := by
  constructor
  · intro hHolds
    rw [holds, entry?] at hHolds
    split at hHolds
    next spot hLocate =>
      obtain ⟨hReadable, hShort, hText⟩ := short_of_locate hLocate
      obtain ⟨entry, hEntry⟩ := Option.isSome_iff_exists.mp hHolds
      rw [locate_eq_walk .target hReadable hShort hText] at hLocate
      exact ⟨hReadable, hShort, hText, spot.place, entry, by rw [hLocate, ← hEntry]⟩
    next => cases hHolds
  · rintro ⟨hReadable, hShort, hText, place, entry, hWalk⟩
    rw [holds, entry?, locate_eq_walk .target hReadable hShort hText, hWalk]
    rfl

/-- The same paths lead to something in two trees with the same names. -/
theorem holds_eq_of_keepsNames (h : t.KeepsNames other) (hBack : other.KeepsNames t) (p : Path) :
    holds ⟨site, t⟩ p = holds ⟨site, other⟩ p := by
  have hOneWay : ∀ {first second : FileTree}, first.KeepsNames second →
      holds ⟨site, first⟩ p = true → holds ⟨site, second⟩ p = true := by
    intro first second hKeeps hHolds
    obtain ⟨hReadable, hShort, hText, place, entry, hWalk⟩ := holds_iff.mp hHolds
    obtain ⟨kept, hKept⟩ := hKeeps.exists_walk hWalk
    exact holds_iff.mpr ⟨hReadable, hShort, hText, place, kept, hKept⟩
  exact Bool.eq_iff_iff.mpr ⟨hOneWay h, hOneWay hBack⟩

theorem holds_of_readText {fs : FileSystem} {p : Path} {text : String}
    (hRead : fs.readText p = .ok text) : fs.holds p = true := by
  rw [holds, entry?]
  simp only [readText, read, bind, Except.bind] at hRead
  cases hLocate : fs.locate .target p with
  | error cause => simp [hLocate] at hRead
  | ok spot =>
      cases hEntry : spot.entry with
      | some entry => simp [hEntry]
      | none => simp [hLocate, hEntry, throw, throwThe, MonadExceptOf.throw] at hRead

end FileSystem

end CallbackWeave

import CallbackWeave.Proofs.Pipeline.Frame

/-!
Operations within a footprint. Two trees that have the same directories and agree on some locations
are the same to whoever goes to these locations only: a path leads there in both or in neither, and
what is written or removed there leaves them so. Elsewhere they may hold different files, which no
way to the locations leads through.
-/

namespace CallbackWeave

namespace FileSystem

variable {fs : FileSystem} {p q : Path} {place : Location}

/-- In a tree without links, a path leads to a directory only if one stands where it spells. -/
theorem isDirectory_eq_false (hFree : fs.tree.LinkFree)
    (hPlain : fs.tree.get? (fs.toSite.place p) ≠ some .directory) : fs.isDirectory p = false := by
  rw [Bool.eq_false_iff]
  intro hDirectory
  unfold isDirectory at hDirectory
  split at hDirectory
  next hEntry =>
    obtain ⟨place, hLocate⟩ := entry?_eq_some_iff.mp hEntry
    obtain ⟨hReadable, hShort, hText⟩ := short_of_locate hLocate
    have hPlace : place = fs.toSite.place p := place_of_locate hFree hLocate
    rw [locate_eq_walk .target hReadable hShort hText] at hLocate
    exact hPlain (hPlace ▸ (FileTree.entry_of_walk hLocate).symm)
  next => cases hDirectory

end FileSystem

namespace FileTree

/-- A resolution that has come to its end comes to it in every tree that keeps the ways and holds
the same there. -/
theorem walk_of_entry {t other : FileTree} (hKeeps : t.KeepsWays other) {purpose : Purpose}
    {links : Nat} {place : Location} {steps : List Step} {spot : Spot}
    (hWalk : t.walk purpose links place steps = .ok spot)
    (hEntry : other.get? spot.place = t.get? spot.place) :
    other.walk purpose links place steps = .ok spot := by
  fun_induction walk t purpose links place steps with
  | case1 links place =>
      obtain rfl := Except.ok.inj hWalk
      rw [walk, hEntry]
  | case2 links place rest ih => rw [walk, ih hWalk]
  | case3 links place rest ih => rw [walk, ih hWalk]
  | case4 links place rest ih => rw [walk, ih hWalk]
  | case7 links place name rest hWriting hShort next hNone hLast =>
      obtain rfl := Except.ok.inj hWalk
      rw [hNone] at hEntry
      simp [walk, hWriting, hShort, next, hEntry, hLast]
  | case9 links place name rest hWriting hShort next hDirectory ih =>
      simp [walk, hWriting, hShort, next, hKeeps.directory _ hDirectory, ih hWalk]
  | case10 links place name rest hWriting hShort next content executable hFile hLast =>
      obtain rfl := Except.ok.inj hWalk
      rw [hFile] at hEntry
      simp [walk, hWriting, hShort, next, hEntry, hLast]
  | case12 links place name rest hWriting hShort next target hLink hLast =>
      simpa [walk, hWriting, hShort, next, hKeeps.link _ _ hLink, hLast] using hWalk
  | case15 place name rest hWriting hShort next target hLink hMore hSome links ih =>
      simpa [walk, hWriting, hShort, next, hKeeps.link _ _ hLink, hMore, hSome] using ih hWalk
  | _ => cases hWalk

/-- Two trees without links have the same directories and agree on some locations, none of which is
a directory. -/
structure AlikeAt (places : List Location) (t other : FileTree) : Prop where
  linkFree : t.LinkFree
  otherLinkFree : other.LinkFree
  directory : ∀ place, t.get? place = some .directory ↔ other.get? place = some .directory
  agree : ∀ place ∈ places, t.get? place = other.get? place
  plain : ∀ place ∈ places, t.get? place ≠ some .directory

namespace AlikeAt

variable {places : List Location} {t other : FileTree} {site : Site} {p q : Path}

theorem symm (h : AlikeAt places t other) : AlikeAt places other t where
  linkFree := h.otherLinkFree
  otherLinkFree := h.linkFree
  directory := fun place => (h.directory place).symm
  agree := fun place hPlace => (h.agree place hPlace).symm
  plain := fun place hPlace => h.agree place hPlace ▸ h.plain place hPlace

theorem keepsWays (h : AlikeAt places t other) : t.KeepsWays other where
  directory := fun place => (h.directory place).mp
  link := fun place target hLink => absurd hLink (h.linkFree place target)

/-- A path is resolved to one of the locations in both trees or in neither. -/
theorem resolve (h : AlikeAt places t other) {purpose : Purpose} {spot : Spot}
    (hResolve : (⟨site, t⟩ : FileSystem).resolve purpose p = .ok spot)
    (hPlace : spot.place ∈ places) :
    (⟨site, other⟩ : FileSystem).resolve purpose p = .ok spot := by
  unfold FileSystem.resolve at hResolve ⊢
  split_ifs at hResolve ⊢
  all_goals exact walk_of_entry h.keepsWays hResolve (h.agree _ hPlace).symm

theorem locate (h : AlikeAt places t other) (hPlace : site.place p ∈ places) {purpose : Purpose}
    {spot : Spot} (hLocate : (⟨site, t⟩ : FileSystem).locate purpose p = .ok spot) :
    (⟨site, other⟩ : FileSystem).locate purpose p = .ok spot := by
  have hSpot : spot.place = site.place p := FileSystem.place_of_locate h.linkFree hLocate
  unfold FileSystem.locate at hLocate ⊢
  split_ifs at hLocate ⊢
  exact h.resolve hLocate (hSpot ▸ hPlace)

theorem toOption_locate_eq (h : AlikeAt places t other) (hPlace : site.place p ∈ places)
    (purpose : Purpose) : ((⟨site, t⟩ : FileSystem).locate purpose p).toOption =
      ((⟨site, other⟩ : FileSystem).locate purpose p).toOption := by
  cases hLocate : (⟨site, t⟩ : FileSystem).locate purpose p with
  | ok spot => rw [h.locate hPlace hLocate]
  | error cause =>
      cases hOther : (⟨site, other⟩ : FileSystem).locate purpose p with
      | ok spot => cases hLocate.symm.trans (h.symm.locate hPlace hOther)
      | error otherCause => rfl

theorem entry?_eq (h : AlikeAt places t other) (hPlace : site.place p ∈ places) :
    FileSystem.entry? ⟨site, t⟩ p = FileSystem.entry? ⟨site, other⟩ p := by
  have hSame := h.toOption_locate_eq hPlace .target
  unfold FileSystem.entry?
  cases hLocate : (⟨site, t⟩ : FileSystem).locate .target p <;>
    cases hOther : (⟨site, other⟩ : FileSystem).locate .target p <;>
    rw [hLocate, hOther] at hSame <;> simp_all [Except.toOption]

theorem holds_eq (h : AlikeAt places t other) (hPlace : site.place p ∈ places) :
    FileSystem.holds ⟨site, t⟩ p = FileSystem.holds ⟨site, other⟩ p := by
  rw [FileSystem.holds, FileSystem.holds, h.entry?_eq hPlace]

theorem writable (h : AlikeAt places t other) (hPlace : site.place p ∈ places) {spot : Spot}
    (hWritable : (⟨site, t⟩ : FileSystem).writable p = .ok spot) :
    (⟨site, other⟩ : FileSystem).writable p = .ok spot := by
  obtain ⟨hLocate, hPlain⟩ := FileSystem.locate_of_writable hWritable
  simp only [FileSystem.writable, h.locate hPlace hLocate, bind, Except.bind]
  rfl

theorem toOption_writable_eq (h : AlikeAt places t other) (hPlace : site.place p ∈ places) :
    ((⟨site, t⟩ : FileSystem).writable p).toOption =
      ((⟨site, other⟩ : FileSystem).writable p).toOption := by
  cases hWritable : (⟨site, t⟩ : FileSystem).writable p with
  | ok spot => rw [h.writable hPlace hWritable]
  | error cause =>
      cases hOther : (⟨site, other⟩ : FileSystem).writable p with
      | ok spot => cases hWritable.symm.trans (h.symm.writable hPlace hOther)
      | error otherCause => rfl

/-- The same paths lead to the entry of a path that leads to one of the locations. -/
theorem sameFile_eq (h : AlikeAt places t other) (hPlace : site.place q ∈ places) :
    FileSystem.sameFile ⟨site, t⟩ p q = FileSystem.sameFile ⟨site, other⟩ p q := by
  have hForth : ∀ {t other : FileTree}, AlikeAt places t other →
      FileSystem.sameFile ⟨site, t⟩ p q = true → FileSystem.sameFile ⟨site, other⟩ p q = true := by
    intro t other h hSame
    obtain ⟨place, hP, hQ⟩ := FileSystem.sameFile_iff.mp hSame
    obtain ⟨entry, hFound⟩ := FileSystem.canonical?_eq_some_iff_resolve.mp hP
    obtain ⟨otherEntry, hOther⟩ := FileSystem.canonical?_eq_some_iff_resolve.mp hQ
    have hSpelled : place = site.place q := FileSystem.place_of_resolve h.linkFree hOther
    have hMem : place ∈ places := hSpelled ▸ hPlace
    exact FileSystem.sameFile_iff.mpr ⟨place,
      FileSystem.canonical?_eq_some_iff_resolve.mpr ⟨entry, h.resolve hFound hMem⟩,
      FileSystem.canonical?_eq_some_iff_resolve.mpr ⟨otherEntry, h.resolve hOther hMem⟩⟩
  exact Bool.eq_iff_iff.mpr ⟨hForth h, hForth h.symm⟩

theorem ne_nil (h : AlikeAt places t other) {place : Location} (hPlace : place ∈ places) :
    place ≠ [] := by
  rintro rfl
  exact h.plain _ hPlace rfl

/-- Both trees change at the locations, and come to hold the same there. -/
theorem change (h : AlikeAt places t other) {after otherAfter : FileTree}
    (hBeside : AgreeBeside places t after) (hOtherBeside : AgreeBeside places other otherAfter)
    (hFree : after.LinkFree) (hOtherFree : otherAfter.LinkFree)
    (hAgree : ∀ place ∈ places, after.get? place = otherAfter.get? place)
    (hPlain : ∀ place ∈ places, after.get? place ≠ some .directory) :
    AlikeAt places after otherAfter := by
  refine ⟨hFree, hOtherFree, fun place => ?_, hAgree, hPlain⟩
  by_cases hPlace : place ∈ places
  · rw [hAgree place hPlace]
  · rw [hBeside place hPlace, hOtherBeside place hPlace]
    exact h.directory place

/-- A file is written at one of the locations in both trees. -/
theorem put (h : AlikeAt places t other) {place : Location} (hPlace : place ∈ places)
    (content : Bytes) (executable : Bool) :
    AlikeAt places (t.put place (.file content executable))
      (other.put place (.file content executable)) := by
  have hBelow := h.ne_nil hPlace
  refine h.change (.put hPlace hBelow t _) (.put hPlace hBelow other _)
    (h.linkFree.put_file hBelow _ _) (h.otherLinkFree.put_file hBelow _ _)
    (fun found hFound => ?_) fun found hFound => ?_
  · rw [get?_put _ _ _ _ hBelow, get?_put _ _ _ _ hBelow, h.agree found hFound]
  · rw [get?_put _ _ _ _ hBelow]
    split_ifs
    · simp
    · exact h.plain found hFound

/-- What stands at one of the locations is removed in both trees. -/
theorem erase (h : AlikeAt places t other) {place : Location} (hPlace : place ∈ places) :
    AlikeAt places (t.erase place) (other.erase place) := by
  have hBelow := h.ne_nil hPlace
  refine h.change (.erase hPlace hBelow t) (.erase hPlace hBelow other)
    (h.linkFree.erase hBelow) (h.otherLinkFree.erase hBelow)
    (fun found hFound => ?_) fun found hFound => ?_
  · rw [get?_erase _ _ _ hBelow, get?_erase _ _ _ hBelow, h.agree found hFound]
  · rw [get?_erase _ _ _ hBelow]
    split_ifs
    · simp
    · exact h.plain found hFound

/-- A path is cleared at one of the locations in both trees, or in neither. -/
theorem clearPath (h : AlikeAt places t other) {above : List Step} {name : String}
    (hSteps : p.steps = above ++ [.into name]) (hPlace : site.place p ∈ places) :
    AlikeAt places (Artifacts.clearPath ⟨site, t⟩ p) (Artifacts.clearPath ⟨site, other⟩ p) := by
  unfold Artifacts.clearPath
  rw [← h.holds_eq hPlace]
  split_ifs
  · by_cases hReached : ∃ directory, (⟨site, t⟩ : FileSystem).Reaches p directory name
    · obtain ⟨directory, hReaches⟩ := hReached
      have hLocate := hReaches.locate_of_entry .target rfl (h.linkFree _)
      have hSpot : directory ++ [name] = site.place p :=
        FileSystem.place_of_locate h.linkFree hLocate
      rw [hReaches.remove_eq, (hReaches.mono h.keepsWays).remove_eq, hSpot, ← h.agree _ hPlace]
      cases hEntry : t.get? (site.place p) with
      | none => exact h
      | some entry =>
          cases entry with
          | directory => exact h
          | file content executable => exact h.erase hPlace
          | link target => exact absurd hEntry (h.linkFree _ target)
    · have hRefused : ∀ {tree : FileTree}, (⟨site, t⟩ : FileSystem).remove p ≠ .ok tree ∧
          (⟨site, other⟩ : FileSystem).remove p ≠ .ok tree := by
        refine fun {tree} => ⟨fun hRemove => hReached ?_, fun hRemove => hReached ?_⟩
        · obtain ⟨directory, hReaches, -⟩ := FileSystem.exists_reaches_of_remove hSteps hRemove
          exact ⟨directory, hReaches⟩
        · obtain ⟨directory, hReaches, -⟩ := FileSystem.exists_reaches_of_remove hSteps hRemove
          exact ⟨directory, hReaches.mono h.symm.keepsWays⟩
      split
      next tree hRemove => exact absurd hRemove hRefused.1
      next =>
        split
        next tree hRemove => exact absurd hRemove hRefused.2
        next => exact h
  · exact h

/-- The temporary files of a command are cleared in both trees. -/
theorem clear (h : AlikeAt places t other) {c : CompileCommand}
    (hPlaces : Artifacts.places site c ⊆ places) :
    AlikeAt places ((Artifacts.ofCommand c).clear ⟨site, t⟩)
      ((Artifacts.ofCommand c).clear ⟨site, other⟩) := by
  have hAll : ∀ paths ⊆ (Artifacts.ofCommand c).paths, ∀ {t other}, AlikeAt places t other →
      AlikeAt places (Artifacts.clearPaths site t paths)
        (Artifacts.clearPaths site other paths) := by
    intro paths hPaths
    induction paths with
    | nil => exact fun h => h
    | cons first rest ih =>
        intro t other h
        obtain ⟨hFirst, hRest⟩ := List.cons_subset.mp hPaths
        obtain ⟨name, hSteps⟩ := Artifacts.exists_steps_of_mem_paths hFirst
        rw [Artifacts.clearPaths_cons, Artifacts.clearPaths_cons]
        exact ih hRest (h.clearPath hSteps (hPlaces (Artifacts.mem_places site hFirst)))
  exact hAll _ (List.Subset.refl _) h

theorem fill (h : AlikeAt places t other) {spot : Spot} (hPlace : spot.place ∈ places)
    {content : Bytes} {executable : Bool} {after : FileTree}
    (hFill : (⟨site, t⟩ : FileSystem).fill spot content executable = .ok after) :
    ∃ otherAfter, (⟨site, other⟩ : FileSystem).fill spot content executable = .ok otherAfter ∧
      AlikeAt places after otherAfter := by
  simp only [FileSystem.fill] at hFill ⊢
  split at hFill
  · split_ifs at hFill ⊢
    obtain rfl := Except.ok.inj hFill
    exact ⟨other, rfl, h⟩
  · obtain rfl := Except.ok.inj hFill
    exact ⟨other, rfl, h⟩
  · obtain rfl := Except.ok.inj hFill
    exact ⟨_, rfl, h.put hPlace content executable⟩

/-- What is copied from one of the locations to another one in the one tree is copied in the other
one as well. -/
theorem copy (h : AlikeAt places t other) (hSource : site.place p ∈ places)
    (hTarget : site.place q ∈ places) {after : FileTree}
    (hCopy : (⟨site, t⟩ : FileSystem).copy p q = .ok after) :
    ∃ otherAfter, (⟨site, other⟩ : FileSystem).copy p q = .ok otherAfter ∧
      AlikeAt places after otherAfter := by
  simp only [FileSystem.copy, bind, Except.bind] at hCopy ⊢
  split at hCopy
  next => cases hCopy
  next found hFound =>
    simp only [h.locate hSource hFound]
    split at hCopy
    next => cases hCopy
    next content executable hEntry hDevice =>
      split at hCopy
      next => cases hCopy
      next spot hWritable =>
        have hSpelled : spot.place = site.place q :=
          FileSystem.place_of_locate h.linkFree (FileSystem.locate_of_writable hWritable).1
        simp only [h.writable hTarget hWritable]
        exact h.fill (hSpelled ▸ hTarget) hCopy
    next => cases hCopy

/-- The same arguments of a command name its source, if this is one of the locations. -/
theorem namesSource_eq (h : AlikeAt places t other) {view : CommandView}
    (hPlace : site.place view.command.sourcePath ∈ places) :
    view.namesSource ⟨site, t⟩ = view.namesSource ⟨site, other⟩ := by
  funext a
  cases a with
  | positional token => simp only [CommandView.namesSource, h.sameFile_eq hPlace]
  | _ => rfl

/-- A tree is the same at some locations after a change at others that leaves no directory there
and finds none. -/
theorem of_apart {apart : List Location} (hFree : t.LinkFree) (hOtherFree : other.LinkFree)
    (hBeside : AgreeBeside apart t other) (hApart : apart.Disjoint places)
    (hPlain : ∀ place ∈ apart, t.get? place ≠ some .directory)
    (hOtherPlain : ∀ place ∈ apart, other.get? place ≠ some .directory)
    (hPlaces : ∀ place ∈ places, t.get? place ≠ some .directory) : AlikeAt places t other := by
  refine ⟨hFree, hOtherFree, fun place => ?_, fun place hPlace => ?_, hPlaces⟩
  · by_cases hPlace : place ∈ apart
    · exact iff_of_false (hPlain place hPlace) (hOtherPlain place hPlace)
    · rw [hBeside place hPlace]
  · exact (hBeside place fun hMem => hApart hMem hPlace).symm

/-- A tree without links is like itself wherever it has no directory. -/
theorem refl (hFree : t.LinkFree) (hPlain : ∀ place ∈ places, t.get? place ≠ some .directory) :
    AlikeAt places t t :=
  ⟨hFree, hFree, fun _ => Iff.rfl, fun _ _ => rfl, hPlain⟩

end AlikeAt

end FileTree

end CallbackWeave

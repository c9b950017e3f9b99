import CallbackWeave.CommandView
import CallbackWeave.Pipeline.Artifacts
import CallbackWeave.Proofs.FileTree.Resolution

/-!
Trees that hold the same. A tree keeps its entries in some order, which no operation on files can
tell: paths are resolved alike in two trees that hold the same at every location, an operation is
refused in both or in none, and what it makes of them holds the same again.
-/

namespace CallbackWeave

namespace FileTree

/-- Two trees are alike if they hold the same at every location. -/
instance : Setoid FileTree where
  r t other := ∀ place, t.get? place = other.get? place
  iseqv := ⟨fun _ _ => rfl, fun h place => (h place).symm,
    fun h hOther place => (h place).trans (hOther place)⟩

variable {t other : FileTree}

/-- Trees that are alike stay so when the same entry is put at the same location. -/
theorem put_congr (h : t ≈ other) (place : Location) (entry : Entry) :
    t.put place entry ≈ other.put place entry := by
  intro found
  have hFound := h found
  by_cases hRoot : found = []
  · simp [get?, hRoot]
  · by_cases hPlace : found = place
    · simp [get?, put, hPlace]
    · simpa [get?, put, hRoot, hPlace, List.lookup_cons, beq_false_of_ne hPlace,
        lookup_filter_ne] using hFound

/-- Trees that are alike stay so when the same location is emptied. -/
theorem erase_congr (h : t ≈ other) (place : Location) : t.erase place ≈ other.erase place := by
  intro found
  have hFound := h found
  by_cases hRoot : found = []
  · simp [get?, hRoot]
  · by_cases hPlace : found = place
    · simp [get?, erase, hPlace, lookup_filter_ne]
    · simpa [get?, erase, hRoot, hPlace, lookup_filter_ne] using hFound

/-- A walk takes the same turns in trees that are alike: what it looks at on the way are entries,
and these it finds in both. -/
theorem walk_congr (h : t ≈ other) (purpose : Purpose) (links : Nat) (place : Location)
    (steps : List Step) :
    t.walk purpose links place steps = other.walk purpose links place steps := by
  have hSame : ∀ {place entry}, t.get? place = entry → other.get? place = entry :=
    fun hEntry => (h _).symm.trans hEntry
  fun_induction walk t purpose links place steps with
  | case1 links place => rw [walk, hSame rfl]
  | case2 links place rest ih => rw [walk, ih]
  | case3 links place rest ih => rw [walk, ih]
  | case4 links place rest ih => rw [walk, ih]
  | case5 links place name rest hWriting => rw [walk, if_pos hWriting]
  | case6 links place name rest hWriting hLong => rw [walk, if_neg hWriting, if_pos hLong]
  | case7 links place name rest hWriting hShort next hEntry hLast =>
      simp [walk, hWriting, hShort, next, hSame hEntry, hLast]
  | case8 links place name rest hWriting hShort next hEntry hMore =>
      simp [walk, hWriting, hShort, next, hSame hEntry, hMore]
  | case9 links place name rest hWriting hShort next hEntry ih =>
      simp [walk, hWriting, hShort, next, hSame hEntry, ih]
  | case10 links place name rest hWriting hShort next content executable hEntry hLast =>
      simp [walk, hWriting, hShort, next, hSame hEntry, hLast]
  | case11 links place name rest hWriting hShort next content executable hEntry hMore =>
      simp [walk, hWriting, hShort, next, hSame hEntry, hMore]
  | case12 links place name rest hWriting hShort next target hEntry hLast =>
      simp [walk, hWriting, hShort, next, hSame hEntry, hLast]
  | case13 links place name rest hWriting hShort next target hEntry hMore hEmpty =>
      simp [walk, hWriting, hShort, next, hSame hEntry, hMore, hEmpty]
  | case14 place name rest hWriting hShort next target hEntry hMore hSome =>
      simp [walk, hWriting, hShort, next, hSame hEntry, hMore, hSome]
  | case15 place name rest hWriting hShort next target hEntry hMore hSome links ih =>
      simpa [walk, hWriting, hShort, next, hSame hEntry, hMore, hSome] using ih

end FileTree

namespace FileSystem

/-- Two results of an operation are alike: it is refused for the same cause, or it gives trees that
are alike. -/
inductive AlikeResults : Except IoError FileTree → Except IoError FileTree → Prop
  | refused (cause : IoError) : AlikeResults (.error cause) (.error cause)
  | done {t other : FileTree} (h : t ≈ other) : AlikeResults (.ok t) (.ok other)

variable {t other : FileTree} (h : t ≈ other) (site : Site)

include h

/-- A path is resolved to the same location, or fails to be for the same cause. -/
theorem resolve_congr (purpose : FileTree.Purpose) (p : Path) :
    resolve ⟨site, t⟩ purpose p = resolve ⟨site, other⟩ purpose p := by
  simp only [resolve, FileTree.walk_congr h]

theorem locate_congr (purpose : FileTree.Purpose) (p : Path) :
    locate ⟨site, t⟩ purpose p = locate ⟨site, other⟩ purpose p := by
  simp only [locate, resolve_congr h site]

theorem holds_congr (p : Path) : holds ⟨site, t⟩ p = holds ⟨site, other⟩ p := by
  simp only [holds, entry?, locate_congr h site]

theorem device?_congr (p : Path) : device? ⟨site, t⟩ p = device? ⟨site, other⟩ p := by
  simp only [device?, locate_congr h site]

/-- Two paths are the same file in both trees or in none. -/
theorem sameFile_congr (p q : Path) : sameFile ⟨site, t⟩ p q = sameFile ⟨site, other⟩ p q := by
  simp only [sameFile, canonical?, resolve_congr h site]

/-- What is written to a path goes to the same spot, or is refused for the same cause. -/
theorem writable_congr (p : Path) : writable ⟨site, t⟩ p = writable ⟨site, other⟩ p := by
  simp only [writable, locate_congr h site]

theorem slot_congr (p : Path) (refusal : IoError) :
    slot ⟨site, t⟩ p refusal = slot ⟨site, other⟩ p refusal := by
  simp only [slot, FileTree.walk_congr h]

/-- What is written to one spot of two trees that are alike leaves them alike, or finds no space in
either. -/
theorem fill_congr (spot : Spot) (content : Bytes) (executable : Bool) :
    AlikeResults (fill ⟨site, t⟩ spot content executable)
      (fill ⟨site, other⟩ spot content executable) := by
  simp only [fill]
  split
  · split_ifs
    · exact .done h
    · exact .refused .noSpace
  · exact .done h
  · exact .done (FileTree.put_congr h _ _)

/-- A file is copied in both trees, which are alike then as well, or in none. -/
theorem copy_congr (source target : Path) :
    AlikeResults (copy ⟨site, t⟩ source target) (copy ⟨site, other⟩ source target) := by
  simp only [copy, locate_congr h site, writable_congr h site, bind, Except.bind]
  cases locate ⟨site, other⟩ .target source with
  | error cause => exact .refused cause
  | ok found =>
      dsimp only
      split
      next => exact .refused .noSuchEntry
      next content executable hEntry hDevice =>
        cases writable ⟨site, other⟩ target with
        | error cause => exact .refused cause
        | ok spot => exact fill_congr h site spot _ _
      next => exact .refused .notRegular

/-- A file is removed from both trees, which are alike then as well, or from none. -/
theorem remove_congr (p : Path) : AlikeResults (remove ⟨site, t⟩ p) (remove ⟨site, other⟩ p) := by
  simp only [remove, slot_congr h site, bind, Except.bind]
  cases slot ⟨site, other⟩ p .isDirectory with
  | error cause => exact .refused cause
  | ok found =>
      obtain ⟨directory, name⟩ := found
      have hEntry : t.get? (directory ++ [name]) = other.get? (directory ++ [name]) := h _
      simp only [hEntry]
      split
      next => exact .refused .noSuchEntry
      next => exact .refused .isDirectory
      next =>
        split_ifs
        · exact .refused .notDirectory
        · exact .done (FileTree.erase_congr h _)

end FileSystem

namespace CommandView

variable {t other : FileTree} (h : t ≈ other) (site : Site)

include h

/-- Which argument names the source, and so what is left for the preprocessor, is the same in both
trees. -/
theorem compilerOnly_congr (view : CommandView) :
    view.compilerOnly ⟨site, t⟩ = view.compilerOnly ⟨site, other⟩ := by
  have hNames : view.namesSource ⟨site, t⟩ = view.namesSource ⟨site, other⟩ := by
    funext argument
    cases argument with
    | positional token => simp only [namesSource, FileSystem.sameFile_congr h site]
    | _ => rfl
  exact compilerOnly_eq_of_namesSource_eq hNames

end CommandView

namespace Artifacts

variable {t other : FileTree} (site : Site)

theorem clearPath_congr (h : t ≈ other) (path : Path) :
    clearPath ⟨site, t⟩ path ≈ clearPath ⟨site, other⟩ path := by
  unfold clearPath
  rw [FileSystem.holds_congr h site]
  have hRemove := FileSystem.remove_congr h site path
  generalize FileSystem.remove ⟨site, t⟩ path = result at hRemove ⊢
  generalize FileSystem.remove ⟨site, other⟩ path = otherResult at hRemove ⊢
  split_ifs
  · cases hRemove with
    | refused cause => exact h
    | done hRemoved => exact hRemoved
  · exact h

/-- Clearing the temporary files cannot tell two trees that are alike, whichever of the files are
there. -/
theorem clear_congr (h : t ≈ other) (a : Artifacts) :
    a.clear ⟨site, t⟩ ≈ a.clear ⟨site, other⟩ := by
  unfold clear
  generalize a.paths = paths
  induction paths generalizing t other with
  | nil => exact h
  | cons path rest ih => exact ih (clearPath_congr site h path)

end Artifacts

end CallbackWeave

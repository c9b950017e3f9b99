import CallbackWeave.Path.Basic
import CallbackWeave.Text.Utf8

/-!
Trees of directories, files and symbolic links. A tree is a finite map from locations to
entries; the root is always a directory. Reading a location after a change is settled by
`get?_put` and `get?_erase`.
-/

namespace CallbackWeave

/-- A place in a tree: the names from the root down to it. -/
abbrev Location := List String

/-- What stands at a location. -/
inductive Entry where
  | directory
  | file (content : Bytes) (executable : Bool)
  /-- A symbolic link, which stands for the path it holds. -/
  | link (target : Path)
deriving DecidableEq, Repr

/-- A tree of files. -/
structure FileTree where
  entries : List (Location × Entry)
deriving Repr

namespace FileTree

/-- The tree that has only its root. -/
def empty : FileTree := ⟨[]⟩

/-- The entry at a location. -/
def get? (t : FileTree) (place : Location) : Option Entry :=
  if place = [] then some .directory else t.entries.lookup place

/-- A tree with the given entry at a location. -/
def put (t : FileTree) (place : Location) (entry : Entry) : FileTree :=
  ⟨(place, entry) :: t.entries.filter fun known => known.1 != place⟩

/-- A tree with nothing at a location. -/
def erase (t : FileTree) (place : Location) : FileTree :=
  ⟨t.entries.filter fun known => known.1 != place⟩

/-- The directories on the way to a location, nearest to the root first. -/
def ancestors (place : Location) : List Location :=
  (List.range place.length).map place.take

/-- A tree in which the directories on the way to a location exist, as far as nothing else stands
in their place. -/
def withAncestors (t : FileTree) (place : Location) : FileTree :=
  let settle (t : FileTree) (above : Location) : FileTree :=
    match t.get? above with
    | none => t.put above .directory
    | some _ => t
  (ancestors place).foldl settle t

/-- The entries below a location, each with the names that lead from there to it. -/
def below (t : FileTree) (place : Location) : List (Location × Entry) :=
  t.entries.filterMap fun (known, entry) =>
    if place.isPrefixOf known && known ≠ place then
      some (known.drop place.length, entry)
    else none

/-- The names of the entries in the directory at a location. -/
def names (t : FileTree) (place : Location) : List String :=
  t.entries.filterMap fun (known, _) =>
    match known.getLast? with
    | some name => if known.dropLast = place then some name else none
    | none => none

theorem lookup_filter_ne (entries : List (Location × Entry)) (place other : Location) :
    (entries.filter fun known => known.1 != place).lookup other =
      if other = place then none else entries.lookup other := by
  induction entries with
  | nil => simp
  | cons first rest ih =>
      obtain ⟨known, entry⟩ := first
      by_cases hKnown : known = place
      · subst hKnown
        rw [List.filter_cons_of_neg (by simp), ih]
        by_cases hOther : other = known
        · simp [hOther]
        · simp [hOther, List.lookup_cons, beq_false_of_ne hOther]
      · rw [List.filter_cons_of_pos (by simpa using hKnown), List.lookup_cons, List.lookup_cons, ih]
        by_cases hOther : other = known
        · simp [hOther, hKnown]
        · simp [beq_false_of_ne hOther]

/-- After an entry has been put at a location below the root, that location holds it and every
other location holds what it held. -/
theorem get?_put (t : FileTree) (place other : Location) (entry : Entry) (hPlace : place ≠ []) :
    (t.put place entry).get? other = if other = place then some entry else t.get? other := by
  by_cases hOther : other = place
  · subst hOther
    simp [get?, put, hPlace]
  · simp only [get?, put, List.lookup_cons, beq_false_of_ne hOther, lookup_filter_ne, hOther,
      if_false]

/-- After a location below the root has been cleared, it holds nothing and every other location
holds what it held. -/
theorem get?_erase (t : FileTree) (place other : Location) (hPlace : place ≠ []) :
    (t.erase place).get? other = if other = place then none else t.get? other := by
  by_cases hOther : other = place
  · simp [get?, erase, hOther, hPlace, lookup_filter_ne]
  · simp [get?, erase, hOther, lookup_filter_ne]

end FileTree

end CallbackWeave

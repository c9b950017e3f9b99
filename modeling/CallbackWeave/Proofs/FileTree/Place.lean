import CallbackWeave.Proofs.FileTree.LastName
import CallbackWeave.Proofs.Path.Folding
import Mathlib.Data.List.DropRight

/-!
Locations told from the text of a path. As long as no link stands on the way, a path leads to the
location that its steps spell, whatever else the tree holds.
-/

namespace CallbackWeave

/-- Where a step leads from a location that is not passed through a link. -/
def Step.follow (place : Location) : Step → Location
  | .here | .within => place
  | .up => place.dropLast
  | .into name => place ++ [name]

/-- The location that a path spells. -/
def Site.place (site : Site) (p : Path) : Location :=
  p.steps.foldl Step.follow (if p.isAbsolute then [] else site.workingDirectory)

theorem Step.foldl_follow_into (names : List String) (place : Location) :
    (names.map Step.into).foldl Step.follow place = place ++ names := by
  induction names generalizing place with
  | nil => simp
  | cons name rest ih => simp [ih, Step.follow]

/-- Climbing takes names away at the end of a location, as far as there are any. -/
theorem Step.foldl_follow_up (count : Nat) (place : Location) :
    (List.replicate count Step.up).foldl Step.follow place = place.rdrop count := by
  induction count generalizing place with
  | zero => simp
  | succ count ih =>
      have hOne : place.dropLast = place.rdrop 1 := by rw [List.rdrop, List.dropLast_eq_take]
      rw [List.replicate_succ, List.foldl_cons, ih, Step.follow, hOne, List.rdrop_add,
        Nat.add_comm]

/-- A separator at the end of a path leads nowhere. -/
theorem Path.foldl_follow_steps_eq_moves (p : Path) (place : Location) :
    p.steps.foldl Step.follow place = p.moves.foldl Step.follow place := by
  rw [steps_eq, List.foldl_append]
  split_ifs <;> rfl

/-- A path spells the location to which its inner components lead. -/
theorem Path.foldl_follow_steps (p : Path) (place : Location) :
    p.steps.foldl Step.follow place = (p.inner.map Component.step).foldl Step.follow place := by
  rw [foldl_follow_steps_eq_moves, ← p.filter_moves, List.foldl_filter]
  congr 1
  funext place step
  cases step <;> rfl

theorem NormalPath.foldl_follow_steps (n : NormalPath) (place : Location) :
    n.steps.foldl Step.follow place = place.rdrop n.climbs ++ n.names := by
  rw [NormalPath.steps, List.foldl_append, Step.foldl_follow_up, Step.foldl_follow_into]

/-- A folded path spells the location to which its own steps lead, also where it is written as one
step that leads nowhere. -/
theorem NormalPath.foldl_follow_toPath {n : NormalPath} (hProper : n.Proper) (place : Location) :
    n.toPath.steps.foldl Step.follow place = n.steps.foldl Step.follow place := by
  by_cases hInner : n.inner = []
  · have hSteps : n.steps = [] := by rw [← map_step_inner, hInner, List.map_nil]
    rcases steps_toPath_of_inner_eq_nil hProper hInner with hOne | hOne <;> rw [hOne, hSteps] <;> rfl
  · rw [steps_toPath hProper hInner]

/-- Where a folded path stands: an absolute one under its own names, and any other where its names
lead once it has climbed. -/
theorem Site.place_toPath (site : Site) {n : NormalPath} (hProper : n.Proper) :
    site.place n.toPath =
      if n.absolute then n.names else site.workingDirectory.rdrop n.climbs ++ n.names := by
  rw [Site.place, NormalPath.isAbsolute_toPath hProper, NormalPath.foldl_follow_toPath hProper,
    NormalPath.foldl_follow_steps]
  split_ifs with hAbsolute
  · rw [hProper.climbs hAbsolute, List.rdrop_zero, List.nil_append]
  · rfl

/-- A path is made absolute by folding it together with the working directory. -/
theorem FileSystem.absolutize_eq (fs : FileSystem) (p : Path) :
    fs.absolutize p = (fs.workingPath.join p).normalize := by
  unfold absolutize
  split_ifs with hAbsolute
  · rw [Path.join, if_pos hAbsolute]
  · rfl

theorem FileSystem.isAbsolute_absolutize (fs : FileSystem) (p : Path) :
    (fs.absolutize p).isAbsolute = true := by
  rw [absolutize_eq, Path.isAbsolute_normalize, Path.isAbsolute_join_iff]
  exact Or.inl Path.isAbsolute_ofComponents_root

namespace FileTree

/-- A tree in which nothing is a link. -/
def LinkFree (t : FileTree) : Prop := ∀ place target, t.get? place ≠ some (.link target)

theorem linkFree_of_entries {t : FileTree}
    (hEntries : ∀ place target, (place, Entry.link target) ∉ t.entries) : t.LinkFree := by
  intro place target hEntry
  unfold get? at hEntry
  split_ifs at hEntry
  · cases hEntry
  obtain ⟨before, after, hSplit, -⟩ := List.lookup_eq_some_iff.mp hEntry
  exact hEntries place target (by simp [hSplit])

theorem LinkFree.put_file {t : FileTree} (hFree : t.LinkFree) {place : Location}
    (hPlace : place ≠ []) (content : Bytes) (executable : Bool) :
    (t.put place (.file content executable)).LinkFree := by
  intro other target hLink
  rw [get?_put _ _ _ _ hPlace] at hLink
  split_ifs at hLink
  · cases hLink
  · exact hFree other target hLink

theorem LinkFree.erase {t : FileTree} (hFree : t.LinkFree) {place : Location}
    (hPlace : place ≠ []) : (t.erase place).LinkFree :=
  fun other target hLink => hFree other target (get?_of_get?_erase hPlace hLink)

/-- Where no link stands, steps lead to the location that they spell. -/
theorem place_of_walk {t : FileTree} (hFree : t.LinkFree) {purpose : Purpose} {links : Nat}
    {place : Location} {steps : List Step} {spot : Spot}
    (hWalk : t.walk purpose links place steps = .ok spot) :
    spot.place = steps.foldl Step.follow place := by
  fun_induction walk t purpose links place steps with
  | case1 links place =>
      obtain rfl := Except.ok.inj hWalk
      rfl
  | case2 links place rest ih => exact ih hWalk
  | case3 links place rest ih => exact ih hWalk
  | case4 links place rest ih => exact ih hWalk
  | case7 links place name rest hWriting hShort next hEntry hLast =>
      obtain rfl := Except.ok.inj hWalk
      rw [List.isEmpty_iff.mp hLast]
      rfl
  | case9 links place name rest hWriting hShort next hEntry ih => exact ih hWalk
  | case10 links place name rest hWriting hShort next content executable hEntry hLast =>
      obtain rfl := Except.ok.inj hWalk
      rw [List.isEmpty_iff.mp hLast]
      rfl
  | case12 links place name rest hWriting hShort next target hEntry =>
      exact absurd hEntry (hFree _ target)
  | case15 place name rest hWriting hShort next target hEntry =>
      exact absurd hEntry (hFree _ target)
  | _ => cases hWalk

theorem descend_climb (t : FileTree) (links climbs : Nat) (place : Location) (rest : List Step) :
    t.descend links place (List.replicate climbs .up ++ rest) =
      t.descend links ((List.replicate climbs .up).foldl Step.follow place) rest := by
  induction climbs generalizing place with
  | zero => rfl
  | succ climbs ih => simp [List.replicate_succ, descend, ih, Step.follow]

/-- Names are gone down where they stand as long as all links stand deeper. -/
theorem descend_names {t : FileTree} {links left : Nat} {place reached : Location}
    {names : List String}
    (hDeep : ∀ other target, t.get? other = some (.link target) →
      place.length + names.length < other.length)
    (hDescend : t.descend links place (names.map .into) = .ok (reached, left)) :
    reached = place ++ names := by
  induction names generalizing place with
  | nil =>
      obtain ⟨rfl, -⟩ : place = reached ∧ links = left := by simpa [descend] using hDescend
      simp
  | cons name rest ih =>
      have hNext : (place ++ [name]).length + rest.length =
          place.length + (name :: rest).length := by
        simp only [List.length_append, List.length_cons, List.length_nil]
        omega
      rw [List.map_cons, descend] at hDescend
      split_ifs at hDescend
      split at hDescend
      · cases hDescend
      · rw [ih (fun other target hLink => hNext ▸ hDeep other target hLink) hDescend]
        simp
      · cases hDescend
      next target hLink =>
        have hLength := hDeep _ target hLink
        omega

end FileTree

/-- A path whose directory is folded stands where it spells, if every link of the tree stands as
deep as it or deeper. -/
theorem FileSystem.Reaches.place_eq {site : Site} {t : FileTree} {p : Path} {directory : Location}
    {n : NormalPath} {name last : String}
    (h : (⟨site, t⟩ : FileSystem).Reaches p directory name)
    (hSteps : p.steps = n.steps ++ [.into last])
    (hDeep : ∀ other target, t.get? other = some (.link target) →
      (site.place p).length ≤ other.length) :
    directory ++ [name] = site.place p := by
  obtain ⟨rfl, left, hWay⟩ := h.exists_descend hSteps
  have hPlace : site.place p = ((List.replicate n.climbs .up).foldl Step.follow
      (if p.isAbsolute then [] else site.workingDirectory)) ++ n.names ++ [name] := by
    rw [Site.place, hSteps, List.foldl_append, NormalPath.steps, List.foldl_append,
      Step.foldl_follow_into]
    rfl
  rw [hPlace] at hDeep ⊢
  rw [NormalPath.steps, FileTree.descend_climb] at hWay
  rw [FileTree.descend_names (fun other target hLink => ?_) hWay]
  · rfl
  · have hLength := hDeep other target hLink
    simp only [List.length_append, List.length_cons, List.length_nil] at hLength
    exact hLength

/-- As far as a path leads anywhere in a tree without links, it leads to the location it spells. -/
theorem FileSystem.place_of_resolve {fs : FileSystem} (hFree : fs.tree.LinkFree)
    {purpose : FileTree.Purpose} {p : Path} {spot : Spot}
    (hResolve : fs.resolve purpose p = .ok spot) : spot.place = fs.toSite.place p :=
  FileTree.place_of_walk hFree (resolve_eq_ok_iff.mp hResolve).2.2

theorem FileSystem.place_of_locate {fs : FileSystem} (hFree : fs.tree.LinkFree)
    {purpose : FileTree.Purpose} {p : Path} {spot : Spot}
    (hLocate : fs.locate purpose p = .ok spot) : spot.place = fs.toSite.place p := by
  obtain ⟨hReadable, hShort, hText⟩ := short_of_locate hLocate
  rw [locate_eq_walk purpose hReadable hShort hText] at hLocate
  exact FileTree.place_of_walk hFree hLocate

namespace FileSystem

variable {p : Path} {above : List Step} {name : String}

/-- Where a path ends in a name, so do its components, and those before it stand for the steps before
it. -/
theorem exists_inner_of_steps (hSteps : p.steps = above ++ [.into name]) :
    ∃ front, p.inner = front ++ [.name name] ∧
      front.map Component.step = above.filter (· ≠ .here) := by
  have hMoves : p.moves = above ++ [.into name] := by
    simpa [Path.steps_eq, endsInSeparator_of_steps hSteps] using hSteps
  have hFilter := p.filter_moves
  rw [hMoves, List.filter_append, List.filter_cons_of_pos (by simp), List.filter_nil, eq_comm,
    List.map_eq_append_iff] at hFilter
  obtain ⟨front, last, hSplit, hFront, hLast⟩ := hFilter
  obtain ⟨c, rfl, hName⟩ := List.map_eq_singleton_iff.mp hLast
  obtain rfl : c = .name name := by
    cases c <;> simp_all [Component.step]
  exact ⟨front, hSplit, hFront⟩

/-- In a tree without links, a path leads to the entry of its last name in the directory to which
the steps before it lead. -/
theorem canonical?_eq_some_iff {fs : FileSystem} (hFree : fs.tree.LinkFree)
    (hSteps : p.steps = above ++ [.into name]) {place : Location} :
    fs.canonical? p = some place ↔
      '\x00' ∉ p.text.toList ∧ name.utf8ByteSize ≤ Path.nameLimit ∧
        ∃ directory left,
          fs.tree.descend FileTree.linkLimit (fs.start p) above = .ok (directory, left) ∧
            place = directory ++ [name] ∧ (fs.tree.get? place).isSome := by
  have hText : p.text.isEmpty = false := text_isEmpty_of_steps (by simp [hSteps])
  by_cases hReadable : '\x00' ∈ p.text.toList
  · simp [canonical?, resolve, hReadable]
  have hResolve : fs.resolve .target p =
      fs.tree.walk .target FileTree.linkLimit (fs.start p) (above ++ [.into name]) := by
    rw [resolve, if_neg (by simpa using hReadable), if_neg (by simp [hText]), hSteps, start]
  rw [FileTree.walk_append _ _ _ _ _ _ (by simp) (by simp)] at hResolve
  cases hWay : fs.tree.descend FileTree.linkLimit (fs.start p) above with
  | error cause => simp [canonical?, hResolve, hWay]
  | ok reached =>
      obtain ⟨directory, left⟩ := reached
      rw [hWay] at hResolve
      by_cases hLong : name.utf8ByteSize > Path.nameLimit
      · simp [canonical?, hResolve, FileTree.walk, hLong, Nat.not_le.mpr hLong]
      · have hShort := Nat.not_lt.mp hLong
        have hFound : fs.canonical? p =
            if (fs.tree.get? (directory ++ [name])).isSome then some (directory ++ [name])
            else none := by
          cases hEntry : fs.tree.get? (directory ++ [name]) with
          | none => simp [canonical?, hResolve, FileTree.walk, hLong, hEntry]
          | some entry =>
              cases entry with
              | directory => simp [canonical?, hResolve, FileTree.walk, hLong, hEntry]
              | file content executable =>
                  simp [canonical?, hResolve, FileTree.walk, hLong, hEntry]
              | link target => exact absurd hEntry (hFree _ target)
        rw [hFound]
        constructor
        · split_ifs with hSome
          · intro hPlace
            obtain rfl := Option.some.inj hPlace
            exact ⟨hReadable, hShort, directory, left, rfl, rfl, hSome⟩
          · intro hPlace
            cases hPlace
        · rintro ⟨-, -, other, more, hSame, rfl, hSome⟩
          obtain ⟨rfl, rfl⟩ : directory = other ∧ left = more := by simpa using hSame
          rw [if_pos hSome]

/-- Two trees without links that have the same directories lead a path to the same location, if
they agree on what has its last name. -/
theorem canonical?_congr {site : Site} {t other : FileTree} (hFree : t.LinkFree)
    (hOtherFree : other.LinkFree)
    (hDirectory : ∀ place, t.get? place = some .directory ↔ other.get? place = some .directory)
    (hSteps : p.steps = above ++ [.into name])
    (hEntry : ∀ directory,
      (t.get? (directory ++ [name])).isSome = (other.get? (directory ++ [name])).isSome) :
    (⟨site, t⟩ : FileSystem).canonical? p = (⟨site, other⟩ : FileSystem).canonical? p := by
  have hTo : t.KeepsWays other :=
    ⟨fun place h => (hDirectory place).mp h, fun place target h => absurd h (hFree place target)⟩
  have hFrom : other.KeepsWays t :=
    ⟨fun place h => (hDirectory place).mpr h,
      fun place target h => absurd h (hOtherFree place target)⟩
  have hHalf : ∀ {t other : FileTree}, t.LinkFree → other.LinkFree → t.KeepsWays other →
      (∀ directory, (t.get? (directory ++ [name])).isSome →
        (other.get? (directory ++ [name])).isSome) → ∀ place,
      (⟨site, t⟩ : FileSystem).canonical? p = some place →
        (⟨site, other⟩ : FileSystem).canonical? p = some place := by
    intro t other hFree hOtherFree hKeeps hEntry place hFound
    obtain ⟨hReadable, hShort, directory, left, hWay, rfl, hSome⟩ :=
      (canonical?_eq_some_iff hFree hSteps).mp hFound
    exact (canonical?_eq_some_iff hOtherFree hSteps).mpr ⟨hReadable, hShort, directory, left,
      FileTree.descend_mono hKeeps hWay, rfl, hEntry directory hSome⟩
  ext place
  exact ⟨hHalf hFree hOtherFree hTo (fun d h => (hEntry d) ▸ h) place,
    hHalf hOtherFree hFree hFrom (fun d h => (hEntry d).symm ▸ h) place⟩

end FileSystem

end CallbackWeave

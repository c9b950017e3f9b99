import CallbackWeave.Proofs.FileTree.Place

/-!
Folded paths in trees with links. A system follows a link before it takes the `..` behind it, and
folding takes the name of the link back without a look at it, so that the two may lead apart. They
lead to the same place as long as each `..` turns back at a directory which is there under the name
that is taken back.
-/

namespace CallbackWeave

namespace FileTree

/-- Steps are gone down one part after another. -/
theorem descend_append (t : FileTree) (links : Nat) (place : Location) (before after : List Step) :
    t.descend links place (before ++ after) =
      match t.descend links place before with
      | .ok (reached, left) => t.descend left reached after
      | .error cause => .error cause := by
  fun_induction descend t links place before with
  | case1 => rfl
  | case2 links place rest ih => rw [List.cons_append, descend, ih]
  | case3 links place rest ih => rw [List.cons_append, descend, ih]
  | case4 links place rest ih => rw [List.cons_append, descend, ih]
  | case5 links place name rest hLong => simp [descend, hLong]
  | case6 links place name rest hShort hEntry => simp [descend, hShort, hEntry]
  | case7 links place name rest hShort hEntry ih => simp [descend, hShort, hEntry, ih]
  | case8 links place name rest hShort content executable hEntry => simp [descend, hShort, hEntry]
  | case9 links place name rest hShort target hEntry hEmpty =>
      simp [descend, hShort, hEntry, hEmpty]
  | case10 place name rest hShort target hEntry hSome => simp [descend, hShort, hEntry, hSome]
  | case11 place name rest hShort target hEntry hSome links ih =>
      simpa [descend, hShort, hEntry, hSome] using ih

/-- Steps that stay where they are may be left out on the way. -/
theorem descend_filter (t : FileTree) (links : Nat) (place : Location) (steps : List Step) :
    t.descend links place (steps.filter (· ≠ .here)) = t.descend links place steps := by
  induction steps generalizing links place with
  | nil => rfl
  | cons step rest ih =>
      by_cases hHere : step = .here
      · subst hHere
        rw [List.filter_cons_of_neg (by simp), ih, descend]
      · have hFirst := descend_append t links place [step]
        simp only [List.singleton_append] at hFirst
        rw [List.filter_cons_of_pos (by simpa using hHere), hFirst, hFirst rest]
        simp only [ih]

/-- An entry that is a directory, and not a link to one, is gone down into. -/
theorem descend_of_walk_entry {t : FileTree} {links : Nat} {place reached : Location}
    {name : String}
    (hWalk : t.walk .entry links place [.into name] = .ok ⟨reached, some .directory⟩) :
    t.descend links place [.into name] = .ok (place ++ [name], links) := by
  by_cases hLong : name.utf8ByteSize > Path.nameLimit
  · simp [walk, hLong] at hWalk
  cases hEntry : t.get? (place ++ [name]) with
  | none => simp [walk, hLong, hEntry] at hWalk
  | some entry =>
      cases entry with
      | directory => simp [descend, hLong, hEntry]
      | file content executable => simp [walk, hLong, hEntry] at hWalk
      | link target => simp [walk, hLong, hEntry] at hWalk

end FileTree

namespace NormalPath

/-- The components of an absolute path, folded. -/
def fromRoot (inner : List Component) : NormalPath := ofComponents (.root :: inner)

theorem fromRoot_append (inner : List Component) (c : Component) :
    fromRoot (inner ++ [c]) = (fromRoot inner).push c := by
  simp [fromRoot, ofComponents]

section

variable {inner : List Component} (hInner : ∀ c ∈ inner, c.IsInner)

include hInner

theorem proper_fromRoot : (fromRoot inner).Proper ∧ (fromRoot inner).absolute = true :=
  Path.foldl_push_proper hInner ⟨List.forall_mem_nil _, fun _ => rfl⟩

/-- The path of folded components goes down by their names from the root. -/
theorem steps_fromRoot (hNames : (fromRoot inner).names ≠ []) :
    (fromRoot inner).toPath.steps = (fromRoot inner).names.map .into ∧
      (fromRoot inner).toPath.isAbsolute = true := by
  obtain ⟨hProper, hAbsolute⟩ := proper_fromRoot hInner
  have hClimbs := hProper.climbs hAbsolute
  refine ⟨?_, by rw [isAbsolute_toPath hProper, hAbsolute]⟩
  rw [steps_toPath hProper (by simpa [NormalPath.inner] using fun _ => hNames), steps, hClimbs]
  rfl

end

end NormalPath

namespace FileSystem

/-- Each `..` among the components of an absolute path turns back at a directory: the name that it
takes back is that of a directory, and not that of a link to one. -/
def Turns (fs : FileSystem) (inner : List Component) : Prop :=
  ∀ front rest, inner = front ++ .up :: rest → (NormalPath.fromRoot front).names ≠ [] →
    ∃ place, fs.resolve .entry (NormalPath.fromRoot front).toPath = .ok ⟨place, some .directory⟩

variable {fs : FileSystem} {inner : List Component}

theorem Turns.front {c : Component} (h : fs.Turns (inner ++ [c])) : fs.Turns inner :=
  fun front rest hSplit => h front (rest ++ [c]) (by rw [hSplit]; simp)

/-- An absolute path that ends in a name is resolved by going down the steps before it from the
root. -/
theorem resolve_of_steps (purpose : FileTree.Purpose) {p : Path} (hAbsolute : p.isAbsolute = true)
    (hReadable : '\x00' ∉ p.text.toList) {above : List Step} {name : String}
    (hSteps : p.steps = above ++ [.into name]) :
    fs.resolve purpose p =
      match fs.tree.descend FileTree.linkLimit [] above with
      | .ok (reached, left) => fs.tree.walk purpose left reached [.into name]
      | .error cause => .error cause := by
  have hText : p.text.isEmpty = false := text_isEmpty_of_steps (by simp [hSteps])
  rw [resolve, if_neg (by simpa using hReadable), if_neg (by simp [hText]), if_pos hAbsolute,
    hSteps]
  exact FileTree.walk_append _ _ _ _ _ _ (by simp) (by simp)

/-- Where a path is found under its last name as a directory, the steps before this name lead to
the directory above. -/
theorem exists_descend_of_resolve (hInner : ∀ c ∈ inner, c.IsInner) {above : List String}
    {s : String} (hNames : (NormalPath.fromRoot inner).names = above ++ [s]) {place : Location}
    (hResolve : fs.resolve .entry (NormalPath.fromRoot inner).toPath =
      .ok ⟨place, some .directory⟩) :
    '\x00' ∉ (NormalPath.fromRoot inner).toPath.text.toList ∧ ∃ reached left,
      fs.tree.descend FileTree.linkLimit [] (above.map .into) = .ok (reached, left) ∧
        fs.tree.descend left reached [.into s] = .ok (reached ++ [s], left) := by
  obtain ⟨hSteps, hAbsolute⟩ := NormalPath.steps_fromRoot hInner (by simp [hNames])
  rw [hNames, List.map_append] at hSteps
  have hReadable : '\x00' ∉ (NormalPath.fromRoot inner).toPath.text.toList := by
    intro hNul
    simp [resolve, hNul] at hResolve
  rw [resolve_of_steps .entry hAbsolute hReadable hSteps] at hResolve
  cases hWay : fs.tree.descend FileTree.linkLimit [] (above.map .into) with
  | error cause =>
      rw [hWay] at hResolve
      cases hResolve
  | ok found =>
      obtain ⟨reached, left⟩ := found
      rw [hWay] at hResolve
      exact ⟨hReadable, reached, left, rfl, FileTree.descend_of_walk_entry hResolve⟩

/-- Components lead where they lead when they are folded, as long as each `..` turns back at a
directory. -/
theorem descend_fromRoot (hInner : ∀ c ∈ inner, c.IsInner) (hTurns : fs.Turns inner) :
    fs.tree.descend FileTree.linkLimit [] (inner.map Component.step) =
      fs.tree.descend FileTree.linkLimit [] ((NormalPath.fromRoot inner).names.map .into) := by
  -- The last component is the one that matters: what is before it leads where it leads folded.
  induction inner using List.reverseRecOn with
  | nil => rfl
  | append_singleton front c ih =>
      obtain ⟨hFront, hLast⟩ := List.forall_mem_append.mp hInner
      have hBefore := ih hFront hTurns.front
      rw [List.map_append, FileTree.descend_append, hBefore, NormalPath.fromRoot_append]
      cases c with
      | root => exact absurd (hLast .root (by simp)) id
      | here => exact absurd (hLast .here (by simp)) id
      | name s =>
          rw [NormalPath.push, List.map_append, FileTree.descend_append]
          rfl
      | up =>
          obtain ⟨-, hAbsolute⟩ := NormalPath.proper_fromRoot hFront
          rcases List.eq_nil_or_concat (NormalPath.fromRoot front).names with
            hNone | ⟨above, s, hNames⟩
          · simp [NormalPath.push, hNone, hAbsolute, FileTree.descend, Component.step]
          · rw [List.concat_eq_append] at hNames
            obtain ⟨place, hResolve⟩ := hTurns front [] rfl (by simp [hNames])
            obtain ⟨-, reached, left, hAbove, hName⟩ :=
              exists_descend_of_resolve hFront hNames hResolve
            have hBack : fs.tree.descend left (reached ++ [s]) [.up] = .ok (reached, left) := by
              simp [FileTree.descend]
            have hFolded : ((NormalPath.fromRoot front).push .up).names = above := by
              simp [NormalPath.push, hNames]
            rw [hFolded, hAbove, hNames, List.map_append, FileTree.descend_append, hAbove]
            simp only [List.map_singleton, hName, Component.step, hBack]

/-- A name that no system takes is left when components are folded, since no `..` turns back at
it. -/
theorem exists_nul_of_turns (hInner : ∀ c ∈ inner, c.IsInner) (hTurns : fs.Turns inner) {s : String}
    (hName : .name s ∈ inner) (hNul : '\x00' ∈ s.toList) :
    ∃ left ∈ (NormalPath.fromRoot inner).names, '\x00' ∈ left.toList := by
  induction inner using List.reverseRecOn with
  | nil => cases hName
  | append_singleton front c ih =>
      obtain ⟨hFront, hLast⟩ := List.forall_mem_append.mp hInner
      rw [NormalPath.fromRoot_append]
      cases c with
      | root => exact absurd (hLast .root (by simp)) id
      | here => exact absurd (hLast .here (by simp)) id
      | name last =>
          rcases List.mem_append.mp hName with hOld | hNew
          · obtain ⟨left, hLeft, hMem⟩ := ih hFront hTurns.front hOld
            exact ⟨left, List.mem_append_left _ hLeft, hMem⟩
          · obtain rfl : s = last := by simpa using hNew
            exact ⟨s, List.mem_append_right _ (List.mem_singleton_self s), hNul⟩
      | up =>
          obtain ⟨left, hLeft, hMem⟩ := ih hFront hTurns.front (by simpa using hName)
          rcases List.eq_nil_or_concat (NormalPath.fromRoot front).names with
            hNone | ⟨above, last, hNames⟩
          · rw [hNone] at hLeft
            cases hLeft
          · rw [List.concat_eq_append] at hNames
            obtain ⟨place, hResolve⟩ := hTurns front [] rfl (by simp [hNames])
            obtain ⟨hReadable, -⟩ := exists_descend_of_resolve hFront hNames hResolve
            exact absurd ((NormalPath.mem_text_toPath (by decide) (by decide)).mpr
              ⟨left, hLeft, hMem⟩) hReadable

/-- An absolute path that ends in its name leads where it leads when it is folded, as long as each
`..` turns back at a directory. -/
theorem canonical?_normalize {p : Path} (hAbsolute : p.isAbsolute = true)
    (hTurns : fs.Turns p.inner) {above : List Step} {name : String}
    (hSteps : p.steps = above ++ [.into name]) : fs.canonical? p.normalize = fs.canonical? p := by
  have hInner : ∀ c ∈ p.inner, c.IsInner := fun c hMem => Path.isInner_of_mem_inner hMem
  have hNormal : p.normal = NormalPath.fromRoot p.inner := by
    rw [Path.normal_eq, hAbsolute]
    rfl
  obtain ⟨front, hSplit, hWay⟩ := exists_inner_of_steps hSteps
  have hNames : (NormalPath.fromRoot p.inner).names =
      (NormalPath.fromRoot front).names ++ [name] := by
    rw [hSplit, NormalPath.fromRoot_append]
    rfl
  have hReadable : '\x00' ∈ p.normalize.text.toList ↔ '\x00' ∈ p.text.toList := by
    refine ⟨fun hNul => Path.mem_text_of_mem_normalize (by decide) (by decide) hNul, fun hNul => ?_⟩
    obtain ⟨s, hName, hMem⟩ := (Path.mem_text_iff (by decide) (by decide)).mp hNul
    rw [Path.normalize, hNormal, NormalPath.mem_text_toPath (by decide) (by decide)]
    exact exists_nul_of_turns hInner hTurns hName hMem
  obtain ⟨hFoldedSteps, hFoldedAbsolute⟩ := NormalPath.steps_fromRoot hInner (by simp [hNames])
  rw [hNames, List.map_append, ← hNormal, ← Path.normalize] at hFoldedSteps
  rw [← hNormal, ← Path.normalize] at hFoldedAbsolute
  have hResolve : fs.resolve .target p.normalize = fs.resolve .target p := by
    by_cases hNul : '\x00' ∈ p.text.toList
    · simp [resolve, hNul, hReadable.mpr hNul]
    · have hFront : ∀ c ∈ front, c.IsInner := fun c hMem => hInner c (by simp [hSplit, hMem])
      have hTurnsFront : fs.Turns front := (hSplit ▸ hTurns).front
      rw [resolve_of_steps .target hAbsolute hNul hSteps,
        resolve_of_steps .target hFoldedAbsolute (mt hReadable.mp hNul) hFoldedSteps,
        ← FileTree.descend_filter _ _ _ above, ← hWay, descend_fromRoot hFront hTurnsFront]
  rw [canonical?, canonical?, hResolve]

end FileSystem

end CallbackWeave

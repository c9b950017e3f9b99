import CallbackWeave.Proofs.Path.Spelling
import CallbackWeave.CompileCommand.Basic

/-!
Joined and folded paths. Joining appends the steps of a relative path, and folding leaves steps that
first climb and then go down. The directory of a folded path is spelled by the same steps without
the last one.
-/

namespace CallbackWeave

namespace Path

/-- The components of a path that are read from its stretches, without a mark at its front. -/
def inner (p : Path) : List Component := p.stretches.filterMap Component.ofStretch?

theorem isInner_of_mem_inner {p : Path} {c : Component} (hMem : c ∈ p.inner) : c.IsInner :=
  isInner_of_mem_filterMap hMem

/-- Without those that stay where they are, the steps of a path are its inner components. -/
theorem filter_moves (p : Path) :
    p.moves.filter (· ≠ .here) = p.inner.map Component.step := by
  have hStretch : ∀ stretch : List Char, (Step.ofStretch? stretch).filter (· ≠ .here) =
      (Component.ofStretch? stretch).map Component.step := by
    intro stretch
    unfold Step.ofStretch? Component.ofStretch?
    split <;> simp [Component.step]
  unfold moves inner
  rw [List.map_filterMap, List.filter_filterMap]
  exact List.filterMap_congr fun stretch _ => hStretch stretch

section Join

variable {base p : Path} (hRelative : p.isAbsolute = false)

include hRelative

variable (base) in
/-- The text of a joined path is that of both, with one separator between them if there is
something on the left. -/
theorem text_join :
    (base.join p).text.toList = p.text.toList ∧ base.text.toList = [] ∨
      ∃ front, (base.join p).text.toList = front ++ '/' :: p.text.toList ∧
        (base.text.toList = front ∧ front ≠ [] ∨ base.text.toList = front ++ ['/']) := by
  by_cases hEmpty : base.text.toList = []
  · have hText : base.text.isEmpty = true := by simpa using hEmpty
    exact Or.inl ⟨by simp [join, hRelative, hText, hEmpty], hEmpty⟩
  · have hText : base.text.isEmpty = false := by simpa using hEmpty
    right
    by_cases hLast : base.text.toList.getLast? = some '/'
    · obtain ⟨front, hFront⟩ := List.getLast?_eq_some_iff.mp hLast
      exact ⟨front, by simp [join, hRelative, hText, hFront], Or.inr hFront⟩
    · exact ⟨base.text.toList, by simp [join, hRelative, hText, hLast], Or.inl ⟨rfl, hEmpty⟩⟩

/-- Whatever is read from the stretches of a joined path is what is read from both, as long as
nothing is read from an empty stretch. -/
theorem filterMap_stretches_join {α : Type} (read : List Char → Option α) (hNone : read [] = none) :
    (base.join p).stretches.filterMap read =
      base.stretches.filterMap read ++ p.stretches.filterMap read := by
  simp only [stretches]
  rcases text_join base hRelative with ⟨hText, hBase⟩ | ⟨front, hText, hBase⟩
  · simp [hText, hBase, hNone]
  · rw [hText, List.splitOn_append_cons_self, List.filterMap_append]
    rcases hBase with ⟨hBase, -⟩ | hBase
    · rw [hBase]
    · rw [hBase, List.splitOn_append_cons_self, List.filterMap_append]
      simp [hNone]

theorem moves_join : (base.join p).moves = base.moves ++ p.moves :=
  filterMap_stretches_join hRelative Step.ofStretch? rfl

theorem inner_join : (base.join p).inner = base.inner ++ p.inner :=
  filterMap_stretches_join hRelative Component.ofStretch? rfl

theorem isAbsolute_join : (base.join p).isAbsolute = base.isAbsolute := by
  have hHead : p.text.toList.head? ≠ some '/' := by simpa [isAbsolute] using hRelative
  rcases text_join base hRelative with ⟨hText, hBase⟩ | ⟨front, hText, hBase⟩
  · simpa [isAbsolute, hText, hBase] using hHead
  · rcases hBase with ⟨hBase, hFront⟩ | hBase
    · obtain ⟨first, rest, rfl⟩ := List.exists_cons_of_ne_nil hFront
      simp [isAbsolute, hText, hBase]
    · cases front <;> simp [isAbsolute, hText, hBase]

end Join

/-- A joined path is absolute if one of its parts is. -/
theorem isAbsolute_join_iff {base p : Path} :
    (base.join p).isAbsolute = true ↔ base.isAbsolute = true ∨ p.isAbsolute = true := by
  cases hAbsolute : p.isAbsolute with
  | true => simp [join, hAbsolute]
  | false => simp [isAbsolute_join hAbsolute]

theorem endsInSeparator_eq_false {p : Path} (hLast : p.stretches.getLast? ≠ some []) :
    p.endsInSeparator = false := by
  by_contra hEnd
  obtain ⟨front, hText⟩ : ∃ front, p.text.toList = front ++ ['/'] :=
    List.getLast?_eq_some_iff.mp (by simpa [endsInSeparator] using hEnd)
  exact hLast (by simp [stretches, hText, List.splitOn_append_cons_self])

theorem isAbsolute_of_entryName {s : String} (hName : EntryName s) :
    (⟨s⟩ : Path).isAbsolute = false := by
  have hHead : s.toList.head? ≠ some '/' := fun hSlash =>
    hName.no_separator (List.mem_of_mem_head? hSlash)
  simpa [isAbsolute] using hHead

/-- A path with the name of an entry appended is resolved by the steps before that name, and then
into the entry. -/
theorem steps_join_name (base : Path) {s : String} (hName : EntryName s) :
    (base.join ⟨s⟩).steps = base.moves ++ [.into s] ∧
      (base.join ⟨s⟩).isAbsolute = base.isAbsolute := by
  have hRelative := isAbsolute_of_entryName hName
  have hMoves : (⟨s⟩ : Path).moves = [.into s] := by
    rw [moves, stretches, List.splitOn_eq_singleton hName.no_separator]
    simp [hName.step]
  have hEnd : (base.join ⟨s⟩).endsInSeparator = false := by
    have hLast : s.toList.getLast? ≠ some '/' := fun hSlash =>
      hName.no_separator (List.mem_of_getLast? hSlash)
    obtain ⟨last, hSome⟩ := Option.ne_none_iff_exists'.mp
      (mt List.getLast?_eq_none_iff.mp hName.nonempty)
    have hOther : last ≠ '/' := fun hSame => hLast (hSame ▸ hSome)
    rcases text_join base hRelative with ⟨hText, -⟩ | ⟨front, hText, -⟩ <;>
      simp [endsInSeparator, hText, List.getLast?_append, List.getLast?_cons, hSome, hOther]
  exact ⟨by rw [steps_eq, moves_join hRelative, hMoves, hEnd]; simp, isAbsolute_join hRelative⟩

end Path

namespace NormalPath

/-- A folded path as folding leaves it: its names are names of entries, and an absolute one does
not climb. -/
structure Proper (n : NormalPath) : Prop where
  names : ∀ s ∈ n.names, EntryName s
  climbs : n.absolute = true → n.climbs = 0

/-- Folding in one more component keeps what makes a folded path proper. -/
theorem Proper.push {n : NormalPath} (h : n.Proper) {c : Component} (hInner : c.IsInner) :
    (n.push c).Proper := by
  cases c with
  | root => cases hInner
  | here => cases hInner
  | up =>
      simp only [NormalPath.push]
      split_ifs with hNames hAbsolute
      · exact ⟨fun s hMem => h.names s ((List.dropLast_sublist _).subset hMem), h.climbs⟩
      · exact h
      · exact ⟨h.names, fun hSome => absurd hSome (by simpa using hAbsolute)⟩
  | name s =>
      refine ⟨fun t hMem => ?_, h.climbs⟩
      rcases List.mem_append.mp hMem with hOld | hNew
      · exact h.names t hOld
      · exact List.mem_singleton.mp hNew ▸ hInner

theorem absolute_push (n : NormalPath) {c : Component} (hInner : c.IsInner) :
    (n.push c).absolute = n.absolute := by
  cases c with
  | root => cases hInner
  | here => cases hInner
  | up => simp only [push]; split_ifs <;> rfl
  | name s => rfl

/-- The components of a folded path without a mark at its front. -/
def inner (n : NormalPath) : List Component :=
  List.replicate n.climbs .up ++ n.names.map .name

/-- The steps of a folded path. -/
def steps (n : NormalPath) : List Step :=
  List.replicate n.climbs .up ++ n.names.map .into

theorem map_step_inner (n : NormalPath) : n.inner.map Component.step = n.steps := by
  simp [inner, steps, Component.step, Function.comp_def]

theorem Proper.inner {n : NormalPath} (h : n.Proper) : ∀ c ∈ n.inner, c.IsInner := by
  intro c hMem
  rcases List.mem_append.mp hMem with hUp | hName
  · rw [List.eq_of_mem_replicate hUp]
    trivial
  · obtain ⟨s, hNames, rfl⟩ := List.mem_map.mp hName
    exact h.names s hNames

/-- A folded path is written in one of three forms. -/
theorem Proper.components_cases {n : NormalPath} (h : n.Proper) :
    n.absolute = true ∧ n.components = .root :: n.inner ∨
      n.absolute = false ∧ n.inner ≠ [] ∧ n.components = n.inner ∨
      n.absolute = false ∧ n.inner = [] ∧ n.components = [.here] := by
  have hEmpty : n.inner = [] ↔ n.climbs = 0 ∧ n.names = [] := by simp [NormalPath.inner]
  cases hAbsolute : n.absolute with
  | true =>
      exact Or.inl ⟨rfl, by simp [components, NormalPath.inner, hAbsolute, h.climbs hAbsolute]⟩
  | false =>
      refine Or.inr ?_
      by_cases hInner : n.inner = []
      · exact Or.inr ⟨rfl, hInner, by simp [components, hAbsolute, hEmpty.mp hInner]⟩
      · have hSome := mt hEmpty.mpr hInner
        exact Or.inl ⟨rfl, hInner, by
          rw [components, if_neg (by simp [hAbsolute]), if_neg hSome, NormalPath.inner]⟩

/-- The directory of a folded path: one name less, or one climb less where there is no name. The
root and the path that stays where it is have no directory but that of the resolution. -/
def directory (n : NormalPath) : NormalPath :=
  if n.names = [] then ⟨false, n.climbs - 1, []⟩ else { n with names := n.names.dropLast }

theorem inner_directory {n : NormalPath} : n.directory.inner = n.inner.dropLast := by
  unfold directory
  split_ifs with hNames
  · simp [inner, hNames]
  · have hMap : n.names.map Component.name ≠ [] := by simpa using hNames
    simp [inner, List.dropLast_append_of_ne_nil hMap, List.map_dropLast]

/-- A character that no separator and no mark of a step is stands in a folded path if it stands in
one of its names. -/
theorem mem_text_toPath {n : NormalPath} {x : Char} (hChar : x ≠ '/') (hMark : x ≠ '.') :
    x ∈ n.toPath.text.toList ↔ ∃ s ∈ n.names, x ∈ s.toList := by
  rw [toPath, Path.mem_text_ofComponents hChar, components]
  split_ifs with hAbsolute hEmpty
  · simp [Component.text, hChar]
  · simp [Component.text, hMark, hEmpty.2]
  · simp [Component.text, hMark, List.mem_replicate, or_and_right, exists_or]

/-- Folding adds no name but that of the component. -/
theorem mem_names_push {n : NormalPath} {c : Component} {s : String}
    (hLeft : s ∈ (n.push c).names) : s ∈ n.names ∨ c = .name s := by
  cases c with
  | root => cases hLeft
  | here => exact Or.inl hLeft
  | up =>
      simp only [push] at hLeft
      split_ifs at hLeft
      · exact Or.inl ((List.dropLast_sublist _).subset hLeft)
      · exact Or.inl hLeft
      · exact Or.inl hLeft
  | name last =>
      rcases List.mem_append.mp hLeft with hOld | hNew
      · exact Or.inl hOld
      · exact Or.inr (by rw [List.mem_singleton.mp hNew])

/-- Folding leaves no other names than those it began with and those of the components. -/
theorem mem_names_foldl_push {components : List Component} {n : NormalPath} {s : String}
    (hLeft : s ∈ (components.foldl push n).names) : s ∈ n.names ∨ .name s ∈ components := by
  induction components generalizing n with
  | nil => exact Or.inl hLeft
  | cons c rest ih =>
      rcases ih hLeft with hFirst | hRest
      · exact (mem_names_push hFirst).imp_right fun hName => by simp [hName]
      · exact Or.inr (List.mem_cons_of_mem _ hRest)

section Written

variable {n : NormalPath} (hProper : n.Proper)

include hProper

theorem isAbsolute_toPath : n.toPath.isAbsolute = n.absolute := by
  rw [toPath]
  rcases hProper.components_cases with ⟨hAbsolute, hForm⟩ | ⟨hAbsolute, -, hForm⟩ |
    ⟨hAbsolute, -, hForm⟩ <;> rw [hForm, hAbsolute]
  · exact Path.isAbsolute_ofComponents_root
  · exact Path.isAbsolute_ofComponents hProper.inner
  · rfl

/-- A folded path that has been written is read back as its components. -/
theorem components_toPath : n.toPath.components = n.components := by
  rw [toPath]
  rcases hProper.components_cases with ⟨-, hForm⟩ | ⟨-, -, hForm⟩ | ⟨-, -, hForm⟩ <;> rw [hForm]
  · exact Path.components_ofComponents_root hProper.inner
  · exact Path.components_ofComponents hProper.inner
  · rfl

/-- Two folded paths have the same components only if they are the same. -/
theorem agrees_toPath_iff {m : NormalPath} (hOther : m.Proper) :
    n.toPath.agrees m.toPath = true ↔ n.toPath = m.toPath := by
  rw [Path.agrees, components_toPath hProper, components_toPath hOther, decide_eq_true_iff]
  constructor
  · intro hSame
    rw [toPath, toPath, hSame]
  · intro hSame
    rw [← components_toPath hProper, hSame, components_toPath hOther]

/-- A folded path that goes anywhere is resolved by its own steps. -/
theorem steps_toPath (hInner : n.inner ≠ []) : n.toPath.steps = n.steps := by
  have hStretches : n.toPath.stretches = n.inner.map Component.text ∨
      n.toPath.stretches = [] :: n.inner.map Component.text := by
    rw [toPath]
    rcases hProper.components_cases with ⟨-, hForm⟩ | ⟨-, -, hForm⟩ | ⟨-, hEmpty, -⟩
    · right
      rw [hForm, Path.stretches_ofComponents_root hProper.inner, if_neg hInner]
    · left
      rw [hForm, Path.stretches_ofComponents hProper.inner hInner]
    · exact absurd hEmpty hInner
  have hMoves : n.toPath.moves = n.steps := by
    rw [Path.moves, ← map_step_inner]
    rcases hStretches with hForm | hForm
    · rw [hForm, Component.filterMap_stepOfStretch?_text hProper.inner]
    · rw [hForm, List.filterMap_cons_none rfl,
        Component.filterMap_stepOfStretch?_text hProper.inner]
  have hLast : n.toPath.stretches.getLast? ≠ some [] := by
    obtain ⟨front, c, hFront⟩ := List.eq_nil_or_concat n.inner |>.resolve_left hInner
    have hText : c.text ≠ [] := (hProper.inner c (by simp [hFront])).text_ne_nil
    rcases hStretches with hForm | hForm <;>
      simpa [hForm, hFront, List.getLast?_cons] using hText
  rw [Path.steps_eq, hMoves, Path.endsInSeparator_eq_false hLast]
  simp

/-- The root and the path that stays where it is have one step, which leads nowhere. -/
theorem steps_toPath_of_inner_eq_nil (hInner : n.inner = []) :
    n.toPath.steps = [.here] ∨ n.toPath.steps = [.within] := by
  rw [toPath]
  rcases hProper.components_cases with ⟨-, hForm⟩ | ⟨-, hSome, -⟩ | ⟨-, -, hForm⟩
  · rw [hForm, hInner]
    exact Or.inr (by decide +kernel)
  · exact absurd hInner hSome
  · rw [hForm]
    exact Or.inl (by decide +kernel)

/-- The directory of a folded path has all of its components but the last. -/
theorem parent?_toPath (hInner : n.inner ≠ []) :
    n.toPath.parent? = some (Path.ofComponents n.components.dropLast) := by
  obtain ⟨front, c, hFront⟩ := List.eq_nil_or_concat n.inner |>.resolve_left hInner
  have hLast : n.components.getLast? = some c := by
    rcases hProper.components_cases with ⟨-, hForm⟩ | ⟨-, -, hForm⟩ | ⟨-, hEmpty, -⟩
    · simp [hForm, hFront, List.getLast?_cons]
    · simp [hForm, hFront]
    · exact absurd hEmpty hInner
  have hRoot : c ≠ .root := by
    rintro rfl
    exact hProper.inner .root (by simp [hFront])
  rw [Path.parent?, components_toPath hProper, hLast]
  cases c <;> simp_all

/-- The parent of a folded path, or else the empty path, is spelled by the steps of its
directory. -/
theorem moves_parent : (n.toPath.parent?.getD ⟨""⟩).moves = n.directory.steps ∧
    (n.toPath.parent?.getD ⟨""⟩).isAbsolute = n.directory.absolute := by
  have hFront : ∀ c ∈ n.inner.dropLast, c.IsInner := fun c hMem =>
    hProper.inner c ((List.dropLast_sublist _).subset hMem)
  rw [← map_step_inner, inner_directory]
  by_cases hInner : n.inner = []
  · have hNames : n.names = [] := by simp_all [NormalPath.inner]
    have hParent : n.toPath.parent?.getD ⟨""⟩ = ⟨""⟩ := by
      rw [Path.parent?, components_toPath hProper]
      rcases hProper.components_cases with ⟨-, hForm⟩ | ⟨-, hSome, -⟩ | ⟨-, -, hForm⟩
      · simp [hForm, hInner]
      · exact absurd hInner hSome
      · rw [hForm]
        rfl
    rw [hParent, hInner, directory, if_pos hNames]
    exact ⟨rfl, rfl⟩
  · rw [parent?_toPath hProper hInner, Option.getD_some]
    rcases hProper.components_cases with ⟨hAbsolute, hForm⟩ | ⟨hAbsolute, -, hForm⟩ |
      ⟨-, hEmpty, -⟩
    · have hNames : n.names ≠ [] := fun hNone =>
        hInner (by simp [NormalPath.inner, hNone, hProper.climbs hAbsolute])
      rw [hForm, List.dropLast_cons_of_ne_nil hInner, directory, if_neg hNames]
      exact ⟨Path.moves_ofComponents_root hFront,
        Path.isAbsolute_ofComponents_root.trans hAbsolute.symm⟩
    · have hDirectory : n.directory.absolute = false := by
        unfold directory
        split_ifs
        · rfl
        · exact hAbsolute
      rw [hForm, hDirectory]
      exact ⟨Path.moves_ofComponents hFront, Path.isAbsolute_ofComponents hFront⟩
    · exact absurd hEmpty hInner

end Written

end NormalPath

namespace Path

theorem components_eq (p : Path) :
    p.components = (if p.isAbsolute then [.root] else if p.stretches.head? = some ['.'] then [.here]
      else []) ++ p.inner := by
  unfold components inner
  split_ifs <;> rfl

/-- A path is folded from its front by its inner components. -/
theorem normal_eq (p : Path) :
    p.normal = p.inner.foldl NormalPath.push ⟨p.isAbsolute, 0, []⟩ := by
  rw [normal, NormalPath.ofComponents, components_eq]
  split_ifs with hAbsolute <;> simp_all [NormalPath.push, NormalPath.empty]

/-- Folding brings nothing into the text of a path but separators and marks of steps. -/
theorem mem_text_of_mem_normalize {p : Path} {x : Char} (hChar : x ≠ '/') (hMark : x ≠ '.')
    (hMem : x ∈ p.normalize.text.toList) : x ∈ p.text.toList := by
  obtain ⟨s, hLeft, hIn⟩ := (NormalPath.mem_text_toPath hChar hMark).mp hMem
  rw [normal_eq] at hLeft
  rcases NormalPath.mem_names_foldl_push hLeft with hNone | hName
  · cases hNone
  · exact (mem_text_iff hChar hMark).mpr ⟨s, hName, hIn⟩

/-- What folding inner components keeps, from any folded path on. -/
theorem foldl_push_proper {components : List Component} (hInner : ∀ c ∈ components, c.IsInner)
    {n : NormalPath} (hProper : n.Proper) :
    (components.foldl NormalPath.push n).Proper ∧
      (components.foldl NormalPath.push n).absolute = n.absolute := by
  induction components generalizing n with
  | nil => exact ⟨hProper, rfl⟩
  | cons c rest ih =>
      obtain ⟨hFirst, hRest⟩ := List.forall_mem_cons.mp hInner
      obtain ⟨hFolded, hAbsolute⟩ := ih hRest (hProper.push hFirst)
      exact ⟨hFolded, hAbsolute.trans (NormalPath.absolute_push n hFirst)⟩

/-- Every path is folded to a proper one. -/
theorem normal_proper (p : Path) : p.normal.Proper := by
  rw [normal_eq]
  exact (foldl_push_proper (fun c hMem => isInner_of_mem_inner hMem) ⟨by simp, by simp⟩).1

theorem absolute_normal (p : Path) : p.normal.absolute = p.isAbsolute := by
  rw [normal_eq]
  exact (foldl_push_proper (fun c hMem => isInner_of_mem_inner hMem) ⟨by simp, by simp⟩).2

/-- Folding keeps a path absolute or relative. -/
theorem isAbsolute_normalize (p : Path) : p.normalize.isAbsolute = p.isAbsolute := by
  rw [normalize, NormalPath.isAbsolute_toPath p.normal_proper, absolute_normal]

/-- A path is seen from a directory by folding both together. -/
theorem resolveIn_eq (base p : Path) : base.resolveIn p = (base.join p).normal.toPath := by
  unfold resolveIn normalize
  split_ifs with hAbsolute
  · rw [join, if_pos hAbsolute]
  · rfl

/-- The name at the end of a path is its last inner component. -/
theorem fileName?_eq_some_iff {p : Path} {s : String} :
    p.fileName? = some s ↔ p.inner.getLast? = some (.name s) := by
  have hLast : p.components.getLast? = some (.name s) ↔ p.inner.getLast? = some (.name s) := by
    rw [components_eq]
    cases hInner : p.inner.getLast? with
    | some c => simp [List.getLast?_append, hInner]
    | none =>
        rw [List.getLast?_append, hInner]
        split_ifs <;> simp
  rw [← hLast, fileName?]
  cases hComponents : p.components.getLast? with
  | none => simp
  | some c => cases c <;> simp

/-- The last name of a path can be that of an entry. -/
theorem entryName_of_fileName? {p : Path} {s : String} (hName : p.fileName? = some s) :
    EntryName s := by
  have hMem := List.mem_of_getLast? (fileName?_eq_some_iff.mp hName)
  exact isInner_of_mem_inner (c := .name s) hMem

theorem inner_of_entryName {s : String} (hName : EntryName s) :
    (⟨s⟩ : Path).inner = [.name s] := by
  rw [inner, stretches, List.splitOn_eq_singleton hName.no_separator]
  simp [hName.component]

theorem fileName?_of_entryName {s : String} (hName : EntryName s) :
    (⟨s⟩ : Path).fileName? = some s := by
  rw [fileName?_eq_some_iff, inner_of_entryName hName]
  rfl

/-- A name joined to a path is folded by appending it. -/
theorem normal_join_name (base : Path) {s : String} (hName : EntryName s) :
    (base.join ⟨s⟩).normal = { base.normal with names := base.normal.names ++ [s] } := by
  have hRelative := isAbsolute_of_entryName hName
  rw [normal_eq, normal_eq, inner_join hRelative, isAbsolute_join hRelative,
    inner_of_entryName hName, List.foldl_append]
  rfl

/-- What is joined to a path as a name is its last name then. -/
theorem fileName?_join_name (base : Path) {s : String} (hName : EntryName s) :
    (base.join ⟨s⟩).fileName? = some s := by
  rw [fileName?_eq_some_iff, inner_join (isAbsolute_of_entryName hName), inner_of_entryName hName]
  simp

/-- The name at the end of a path is also the last name of what a directory and the path fold to. -/
theorem names_normal_join (base : Path) {p : Path} {s : String} (hName : p.fileName? = some s) :
    ∃ above, (base.join p).normal.names = above ++ [s] := by
  have hLast : (base.join p).inner.getLast? = some (.name s) := by
    cases hAbsolute : p.isAbsolute with
    | true => rw [join, if_pos hAbsolute, fileName?_eq_some_iff.mp hName]
    | false => rw [inner_join hAbsolute, List.getLast?_append, fileName?_eq_some_iff.mp hName]; rfl
  obtain ⟨front, hFront⟩ := List.getLast?_eq_some_iff.mp hLast
  rw [normal_eq, hFront, List.foldl_append]
  exact ⟨_, rfl⟩

/-- A path seen from a directory is resolved by the steps to the directory of both folded together,
and then by its last name. -/
theorem steps_resolveIn (base : Path) {p : Path} {s : String} (hName : p.fileName? = some s) :
    (base.resolveIn p).steps = (base.join p).normal.directory.steps ++ [.into s] ∧
      (base.resolveIn p).isAbsolute = (base.join p).normal.directory.absolute := by
  have hProper := (base.join p).normal_proper
  obtain ⟨above, hNames⟩ := names_normal_join base hName
  have hInner : (base.join p).normal.inner ≠ [] := by simp [NormalPath.inner, hNames]
  have hSome : (base.join p).normal.names ≠ [] := by simp [hNames]
  rw [resolveIn_eq, NormalPath.steps_toPath hProper hInner, NormalPath.isAbsolute_toPath hProper,
    NormalPath.directory, if_neg hSome]
  simp [NormalPath.steps, hNames]

end Path

namespace NormalPath

theorem fileName?_toPath {n : NormalPath} (hProper : n.Proper) {above : List String} {s : String}
    (hNames : n.names = above ++ [s]) : n.toPath.fileName? = some s := by
  have hLast : n.components.getLast? = some (.name s) := by
    rcases hProper.components_cases with ⟨-, hForm⟩ | ⟨-, -, hForm⟩ | ⟨-, hEmpty, -⟩
    · simp [hForm, inner, hNames, List.getLast?_cons]
    · simp [hForm, inner, hNames]
    · simp [inner, hNames] at hEmpty
  rw [Path.fileName?, components_toPath hProper, hLast]

end NormalPath

end CallbackWeave

import CallbackWeave.Proofs.Path.Folding

/-!
Folded paths as canonical forms. A folded path that has been written is read back as it was, so that
folding it again changes nothing. Since a name and the `..` behind it do nothing together to
whatever they are folded onto, a part of a path may be folded before the whole, and a path is seen
alike from a directory and from the folded path of that directory.
-/

namespace CallbackWeave

/-- A path in canonical form. -/
structure Path.IsCanonical (p : Path) : Prop where
  /-- It goes somewhere, be it only to where it starts. -/
  nonempty : p.components ≠ []
  /-- Its components are all that is written. -/
  spelled : Path.ofComponents p.components = p
  /-- With a `.` among them it is just that. -/
  here : .here ∈ p.components → p = ⟨"."⟩
  /-- A `..` stands in a relative path and has nothing before it but other `..`. -/
  up : ∀ before after, p.components = before ++ .up :: after →
    p.isAbsolute = false ∧ ∀ c ∈ before, c = .up

namespace NormalPath

variable {n base : NormalPath} {c : Component} {components : List Component}

theorem foldl_push_names (n : NormalPath) (names : List String) :
    (names.map Component.name).foldl push n = { n with names := n.names ++ names } := by
  induction names generalizing n with
  | nil => simp
  | cons s rest ih => simp [ih, push]

theorem foldl_push_climbs (count : Nat) (m : Nat) :
    (List.replicate count Component.up).foldl push ⟨false, m, []⟩ = ⟨false, m + count, []⟩ := by
  induction count generalizing m with
  | zero => rfl
  | succ count ih => simp [List.replicate_succ, push, ih, Nat.add_assoc, Nat.add_comm 1]

/-- The components of a folded path fold to that path. -/
theorem ofComponents_components (hProper : n.Proper) : ofComponents n.components = n := by
  obtain ⟨absolute, climbs, names⟩ := n
  cases absolute with
  | true =>
      obtain rfl : climbs = 0 := hProper.climbs rfl
      simp [components, ofComponents, push, foldl_push_names]
  | false =>
      by_cases hEmpty : climbs = 0 ∧ names = []
      · obtain ⟨rfl, rfl⟩ := hEmpty
        rfl
      · simp only [components, ofComponents, Bool.false_eq_true, if_false, if_neg hEmpty, empty]
        rw [List.foldl_append, foldl_push_climbs, foldl_push_names]
        simp

/-- The mark of a path that stays where it is does nothing when it is folded onto another. -/
theorem foldl_push_components (hRelative : n.absolute = false) :
    n.components.foldl push base = n.inner.foldl push base := by
  rw [components, if_neg (by simp [hRelative]), inner]
  split_ifs with hEmpty
  · simp [hEmpty.1, hEmpty.2, push]
  · rfl

/-- One component more of a folded path is one more that is folded onto another, unless it is a `..`
that is dropped at the root. -/
theorem foldl_inner_push (hProper : n.Proper) (hInner : c.IsInner)
    (hBase : n.absolute = true → base.push .up = base) :
    (n.push c).inner.foldl push base = (n.inner.foldl push base).push c := by
  cases c with
  | root => cases hInner
  | here => cases hInner
  | name s => simp [push, inner, List.foldl_append]
  | up =>
      rcases List.eq_nil_or_concat n.names with hNone | ⟨above, s, hNames⟩
      · cases hAbsolute : n.absolute with
        | true =>
            have hEmpty : n.inner = [] := by simp [inner, hNone, hProper.climbs hAbsolute]
            have hPushed : n.push .up = n := by simp [push, hNone, hAbsolute]
            rw [hPushed, hEmpty, List.foldl_nil, hBase hAbsolute]
        | false => simp [push, inner, hNone, hAbsolute, List.replicate_succ', List.foldl_append]
      · -- The name that is taken back does nothing together with the `..`.
        have hBack : ∀ m : NormalPath, (m.push (.name s)).push .up = m := fun m => by simp [push]
        have hSplit : n.inner = (n.push .up).inner ++ [.name s] := by simp [push, inner, hNames]
        rw [hSplit, List.foldl_append, List.foldl_cons, List.foldl_nil, hBack]

/-- What components fold to on a folded path does to another path what that path and the components
do to it. -/
theorem foldl_inner_foldl_push (hProper : n.Proper) (hInner : ∀ c ∈ components, c.IsInner)
    (hBase : n.absolute = true → base.push .up = base) :
    (components.foldl push n).inner.foldl push base =
      components.foldl push (n.inner.foldl push base) := by
  induction components generalizing n with
  | nil => rfl
  | cons c rest ih =>
      obtain ⟨hFirst, hRest⟩ := List.forall_mem_cons.mp hInner
      rw [List.foldl_cons, ih (hProper.push hFirst) hRest (by rwa [absolute_push n hFirst]),
        foldl_inner_push hProper hFirst hBase]
      rfl

end NormalPath

namespace Path

variable {base p : Path}

theorem normal_normalize (p : Path) : p.normalize.normal = p.normal := by
  rw [normal, normalize, NormalPath.components_toPath p.normal_proper,
    NormalPath.ofComponents_components p.normal_proper]

theorem normalize_normalize (p : Path) : p.normalize.normalize = p.normalize := by
  rw [normalize, normal_normalize, normalize]

theorem normal_join (base : Path) (hRelative : p.isAbsolute = false) :
    (base.join p).normal = p.inner.foldl NormalPath.push base.normal := by
  rw [normal_eq, normal_eq, inner_join hRelative, isAbsolute_join hRelative, List.foldl_append]

/-- The directory on the left of a joined path may be folded first. -/
theorem normal_normalize_join (base p : Path) :
    (base.normalize.join p).normal = (base.join p).normal := by
  cases hAbsolute : p.isAbsolute with
  | true => rw [join, join, if_pos hAbsolute, if_pos hAbsolute]
  | false => rw [normal_join _ hAbsolute, normal_join _ hAbsolute, normal_normalize]

/-- A relative path does to a folded path what its own folded form does. -/
theorem foldl_push_normal_inner (hRelative : p.isAbsolute = false) (n : NormalPath) :
    p.normal.inner.foldl NormalPath.push n = p.inner.foldl NormalPath.push n := by
  rw [p.normal_eq]
  refine NormalPath.foldl_inner_foldl_push ⟨by simp, by simp⟩
    (fun c hMem => isInner_of_mem_inner hMem) fun hRoot => ?_
  cases hRelative.symm.trans hRoot

/-- The path on the right of a joined path may be folded first. -/
theorem normal_join_normalize (base p : Path) :
    (base.join p.normalize).normal = (base.join p).normal := by
  have hSame := p.isAbsolute_normalize
  cases hAbsolute : p.isAbsolute with
  | true =>
      rw [join, join, if_pos hAbsolute, if_pos (hSame.trans hAbsolute), normal_normalize]
  | false =>
      have hFolded : p.normalize.inner.foldl NormalPath.push base.normal =
          p.normal.inner.foldl NormalPath.push base.normal := by
        rw [← NormalPath.foldl_push_components (p.absolute_normal.trans hAbsolute),
          ← NormalPath.components_toPath p.normal_proper, ← normalize, components_eq,
          List.foldl_append, if_neg (by simp [hSame, hAbsolute])]
        split_ifs <;> rfl
      rw [normal_join _ (hSame.trans hAbsolute), normal_join _ hAbsolute, hFolded,
        foldl_push_normal_inner hAbsolute]

theorem resolveIn_of_isAbsolute (base : Path) (hAbsolute : p.isAbsolute = true) :
    base.resolveIn p = p.normalize := by
  rw [resolveIn, if_pos hAbsolute]

theorem isAbsolute_resolveIn (hBase : base.isAbsolute = true) (p : Path) :
    (base.resolveIn p).isAbsolute = true := by
  rw [resolveIn_eq, ← normalize, isAbsolute_normalize]
  exact isAbsolute_join_iff.mpr (Or.inl hBase)

theorem isCanonical_normalize (p : Path) : p.normalize.IsCanonical := by
  have hProper := p.normal_proper
  have hWritten : p.normalize.components = p.normal.components :=
    NormalPath.components_toPath hProper
  have hAbsolute : p.normalize.isAbsolute = p.normal.absolute :=
    NormalPath.isAbsolute_toPath hProper
  have hHere : Component.here ∉ p.normal.inner := fun hMem => hProper.inner _ hMem
  refine ⟨?_, ?_, ?_, ?_⟩
  · rw [hWritten]
    rcases hProper.components_cases with ⟨-, hForm⟩ | ⟨-, hSome, hForm⟩ | ⟨-, -, hForm⟩ <;>
      simp_all
  · rw [hWritten]
    rfl
  · intro hMem
    rw [hWritten] at hMem
    rw [normalize, NormalPath.toPath]
    rcases hProper.components_cases with ⟨-, hForm⟩ | ⟨-, -, hForm⟩ | ⟨-, -, hForm⟩
    · simp [hForm, hHere] at hMem
    · exact absurd (hForm ▸ hMem) hHere
    · rw [hForm]
      rfl
  · intro before after hSplit
    rw [hWritten] at hSplit
    rw [hAbsolute]
    rcases hProper.components_cases with ⟨hRoot, hForm⟩ | ⟨hRelative, -, hForm⟩ |
      ⟨hRelative, -, hForm⟩
    · have hMem : Component.up ∈ Component.root :: p.normal.inner := by simp [← hForm, hSplit]
      simp [NormalPath.inner, hProper.climbs hRoot] at hMem
    · refine ⟨hRelative, ?_⟩
      rw [hForm, NormalPath.inner] at hSplit
      rcases List.append_eq_append_iff.mp hSplit with ⟨front, hBefore, hNames⟩ |
        ⟨rest, hClimbs, -⟩
      · have hMem : Component.up ∈ p.normal.names.map Component.name := by simp [hNames]
        simp at hMem
      · intro c hMem
        refine List.eq_of_mem_replicate (n := p.normal.climbs) ?_
        simp [hClimbs, hMem]
    · rw [hForm] at hSplit
      have hMem : Component.up ∈ [Component.here] := by simp [hSplit]
      simp at hMem

/-- Inner components with all `..` in front are those of a folded path. -/
theorem exists_inner_eq {inner : List Component} (hInner : ∀ c ∈ inner, c.IsInner)
    (hUp : ∀ before after, inner = before ++ .up :: after → ∀ c ∈ before, c = .up) :
    ∃ (climbs : Nat) (names : List String),
      inner = List.replicate climbs .up ++ names.map .name ∧ ∀ s ∈ names, EntryName s := by
  induction inner with
  | nil => exact ⟨0, [], rfl, by simp⟩
  | cons c rest ih =>
      obtain ⟨hFirst, hRest⟩ := List.forall_mem_cons.mp hInner
      obtain ⟨climbs, names, hSplit, hNames⟩ := ih hRest fun before after hBefore d hMem =>
        hUp (c :: before) after (by rw [hBefore, List.cons_append]) d (List.mem_cons_of_mem c hMem)
      cases c with
      | root => cases hFirst
      | here => cases hFirst
      | up => exact ⟨climbs + 1, names, by rw [hSplit]; rfl, hNames⟩
      | name s =>
          cases climbs with
          | zero =>
              exact ⟨0, s :: names, by simp [hSplit], List.forall_mem_cons.mpr ⟨hFirst, hNames⟩⟩
          | succ more =>
              have hName := hUp [.name s] (List.replicate more .up ++ names.map .name)
                (by rw [hSplit]; rfl) (.name s) List.mem_cons_self
              cases hName

theorem IsCanonical.exists_components (h : p.IsCanonical) :
    ∃ n : NormalPath, n.Proper ∧ p.components = n.components := by
  have hInner : ∀ c ∈ p.inner, c.IsInner := fun c hMem => isInner_of_mem_inner hMem
  by_cases hHere : Component.here ∈ p.components
  · obtain rfl := h.here hHere
    exact ⟨.empty, ⟨by simp [NormalPath.empty], by simp [NormalPath.empty]⟩, by decide +kernel⟩
  · cases hAbsolute : p.isAbsolute with
    | true =>
        have hForm : p.components = .root :: p.inner := by simp [components_eq, hAbsolute]
        obtain ⟨climbs, names, hSplit, hNames⟩ := exists_inner_eq hInner
          fun before after hBefore => by
            have hUp := h.up (.root :: before) after (by rw [hForm, hBefore]; rfl)
            cases hUp.1.symm.trans hAbsolute
        cases climbs with
        | zero =>
            exact ⟨⟨true, 0, names⟩, ⟨hNames, by simp⟩, by
              simp [hForm, hSplit, NormalPath.components]⟩
        | succ more =>
            have hUp := h.up [.root] (List.replicate more .up ++ names.map .name)
              (by rw [hForm, hSplit]; rfl)
            cases hUp.1.symm.trans hAbsolute
    | false =>
        have hForm : p.components = p.inner := by
          rw [components_eq, hAbsolute] at hHere ⊢
          split_ifs at hHere ⊢ <;> simp_all
        obtain ⟨climbs, names, hSplit, hNames⟩ := exists_inner_eq hInner
          fun before after hBefore => (h.up before after (hForm.trans hBefore)).2
        have hSome : ¬ (climbs = 0 ∧ names = []) := by
          rintro ⟨rfl, rfl⟩
          exact h.nonempty (hForm.trans hSplit)
        exact ⟨⟨false, climbs, names⟩, ⟨hNames, by simp⟩, by
          simp [hForm, hSplit, NormalPath.components, hSome]⟩

/-- The canonical paths are those that folding leaves as they are. -/
theorem isCanonical_iff (p : Path) : p.IsCanonical ↔ p.normalize = p := by
  constructor
  · intro h
    obtain ⟨n, hProper, hForm⟩ := h.exists_components
    rw [normalize, normal, hForm, NormalPath.ofComponents_components hProper, NormalPath.toPath,
      ← hForm, h.spelled]
  · intro hFixed
    exact hFixed ▸ p.isCanonical_normalize

/-- Folding gives each path a canonical form of its own kind, and leaves canonical paths as they
are. It may be done before joining as well as after it: of a directory, of what is seen from it,
and, for an absolute directory, of what has been seen from it already. -/
theorem normalize_canonical :
    (∀ p : Path, p.normalize.IsCanonical ∧ p.normalize.isAbsolute = p.isAbsolute ∧
      p.normalize.normalize = p.normalize ∧ (p.IsCanonical ↔ p.normalize = p)) ∧
    (∀ a b : Path, (a.normalize.join b).normalize = (a.join b).normalize) ∧
    (∀ base p : Path, base.normalize.resolveIn p = base.resolveIn p ∧
      base.resolveIn p.normalize = base.resolveIn p) ∧
    ∀ base p : Path, base.isAbsolute = true →
      base.resolveIn (base.resolveIn p) = base.resolveIn p := by
  refine ⟨fun p => ⟨p.isCanonical_normalize, p.isAbsolute_normalize, p.normalize_normalize,
    p.isCanonical_iff⟩, fun a b => ?_, fun base p => ⟨?_, ?_⟩, fun base p hBase => ?_⟩
  · rw [normalize, normal_normalize_join, ← normalize]
  · rw [resolveIn_eq, normal_normalize_join, ← resolveIn_eq]
  · rw [resolveIn_eq, normal_join_normalize, ← resolveIn_eq]
  · rw [resolveIn_of_isAbsolute base (isAbsolute_resolveIn hBase p), resolveIn_eq base p,
      ← normalize, normalize_normalize]

theorem normalize_canonical_climbing :
    (⟨"/p/q"⟩ : Path).isAbsolute = true ∧
    (⟨"/p/q"⟩ : Path).resolveIn ⟨"x//.././../../../a.c"⟩ = ⟨"/a.c"⟩ ∧
    (⟨"/p/q"⟩ : Path).resolveIn ((⟨"/p/q"⟩ : Path).resolveIn ⟨"x//.././../../../a.c"⟩) =
      (⟨"/p/q"⟩ : Path).resolveIn ⟨"x//.././../../../a.c"⟩ := by
  obtain ⟨-, -, -, hAgain⟩ := normalize_canonical
  have hAbsolute : (⟨"/p/q"⟩ : Path).isAbsolute = true := by decide
  exact ⟨hAbsolute, by decide +kernel, hAgain _ _ hAbsolute⟩

end Path

end CallbackWeave

import CallbackWeave.Proofs.Path.Canonical

/-!
Being inside a directory, and the directory from which both paths are seen. The check compares
folded paths without a look at where they are seen from. For two absolute paths, or two relative
ones that climb equally far, that is no loss: seen from an absolute directory they lie inside each
other exactly if they do by themselves. An absolute and a relative path, or two that climb differently
far, may lie inside each other from one directory and not from another, so that no such check could
answer for them.
-/

namespace CallbackWeave

/-- Two paths that start from the same place wherever they are seen from: both are absolute, or both
are relative and, once they are folded, climb equally many directories. -/
def Path.IsAlongside (p q : Path) : Prop :=
  p.isAbsolute = q.isAbsolute ∧
    p.normalize.components.count .up = q.normalize.components.count .up

namespace NormalPath

variable {n m : NormalPath}

theorem count_up_components (hProper : n.Proper) : n.components.count .up = n.climbs := by
  have hInner : n.inner.count .up = n.climbs := by
    have hNames : (n.names.map Component.name).count .up = 0 :=
      List.count_eq_zero.mpr (by simp)
    rw [inner, List.count_append, List.count_replicate_self, hNames, Nat.add_zero]
  rcases hProper.components_cases with ⟨-, hForm⟩ | ⟨-, -, hForm⟩ | ⟨-, hEmpty, hForm⟩
  · simpa [hForm] using hInner
  · rw [hForm, hInner]
  · rw [hForm, ← hInner, hEmpty]
    rfl

/-- Climbing from the end of an absolute path takes that many names off it. -/
theorem foldl_push_climbs_of_absolute (count : Nat) (names : List String) :
    (List.replicate count Component.up).foldl push ⟨true, 0, names⟩ =
      ⟨true, 0, names.take (names.length - count)⟩ := by
  induction count generalizing names with
  | zero => simp
  | succ count ih =>
      rw [List.replicate_succ, List.foldl_cons]
      cases hNames : names with
      | nil => simpa [push] using ih []
      | cons s rest =>
          have hPushed : push ⟨true, 0, s :: rest⟩ .up = ⟨true, 0, (s :: rest).dropLast⟩ := rfl
          rw [hPushed, ih, List.dropLast_eq_take, List.take_take, List.length_take]
          congr 2
          simp only [List.length_cons]
          omega

theorem prefix_map_name_iff {names others : List String} :
    names.map Component.name <+: others.map Component.name ↔ names <+: others :=
  List.prefix_map_iff_of_injective fun _ _ hSame => Component.name.inj hSame

theorem components_prefix_iff_of_absolute (hFirst : n.absolute = true)
    (hSecond : m.absolute = true) :
    n.components <+: m.components ↔ n.names <+: m.names := by
  rw [components, if_pos hFirst, components, if_pos hSecond, List.prefix_cons_inj,
    prefix_map_name_iff]

/-- Of two relative paths that climb equally far, one lies inside the other if its names do. A path
that goes nowhere is written as a `.` and holds only itself. -/
theorem components_prefix_iff_of_climbs (hFirst : n.absolute = false) (hSecond : m.absolute = false)
    (hClimbs : n.climbs = m.climbs) (hHere : n.inner = [] → m.inner = []) :
    n.components <+: m.components ↔ n.names <+: m.names := by
  by_cases hEmpty : n.inner = []
  · have hBoth := hHere hEmpty
    simp_all [inner, components]
  · have hSome : ¬ (n.climbs = 0 ∧ n.names = []) := by simpa [inner] using hEmpty
    rw [components, if_neg (by simp [hFirst]), if_neg hSome]
    by_cases hOther : m.climbs = 0 ∧ m.names = []
    · -- The names of the first path are no beginning of a `.`, nor of nothing.
      have hNames : n.names ≠ [] := fun hNone => hSome ⟨hClimbs.trans hOther.1, hNone⟩
      obtain ⟨s, rest, hNames⟩ := List.exists_cons_of_ne_nil hNames
      simp [components, hSecond, hOther, hClimbs, hNames]
    · rw [components, if_neg (by simp [hSecond]), if_neg hOther, hClimbs,
        List.prefix_append_right_inj, prefix_map_name_iff]

theorem climbs_eq_of_replicate {climbs others : Nat} {s : String} {rest : List Component}
    {names : List String} (hPrefix : List.replicate climbs .up ++ .name s :: rest <+:
      List.replicate others .up ++ names.map .name) : climbs = others := by
  induction climbs generalizing others with
  | zero =>
      cases others with
      | zero => rfl
      | succ others => simp [List.replicate_succ] at hPrefix
  | succ climbs ih =>
      cases others with
      | zero => cases names <;> simp [List.replicate_succ] at hPrefix
      | succ others =>
          simp only [List.replicate_succ, List.cons_append, List.prefix_cons_inj] at hPrefix
          rw [ih hPrefix]

/-- Nothing lies inside a directory that is absolute or has a name at its end, unless both start
from the same place. -/
theorem start_eq_of_components_prefix (hProper : n.Proper) (hOther : m.Proper)
    (hNamed : n.absolute = true ∨ n.names ≠ []) (hPrefix : n.components <+: m.components) :
    m.absolute = n.absolute ∧ m.climbs = n.climbs := by
  rcases hProper.components_cases with ⟨hAbsolute, hForm⟩ | ⟨hRelative, -, hForm⟩ |
    ⟨hRelative, hEmpty, -⟩
  · have hRoot : m.absolute = true := by
      rcases hOther.components_cases with ⟨hRoot, -⟩ | ⟨-, hSome, hInto⟩ | ⟨-, -, hInto⟩
      · exact hRoot
      · obtain ⟨c, rest, hCons⟩ := List.exists_cons_of_ne_nil hSome
        rw [hForm, hInto, hCons, List.cons_prefix_cons] at hPrefix
        have hInner := hOther.inner c (by simp [hCons])
        rw [← hPrefix.1] at hInner
        cases hInner
      · simp [hForm, hInto] at hPrefix
    exact ⟨hRoot.trans hAbsolute.symm, by rw [hOther.climbs hRoot, hProper.climbs hAbsolute]⟩
  · obtain ⟨s, rest, hNames⟩ := List.exists_cons_of_ne_nil
      (hNamed.resolve_left (by simp [hRelative]))
    have hCons : n.components = List.replicate n.climbs .up ++ .name s :: rest.map .name := by
      rw [hForm, inner, hNames, List.map_cons]
    rw [hCons] at hPrefix
    rcases hOther.components_cases with ⟨-, hInto⟩ | ⟨hSame, -, hInto⟩ | ⟨-, -, hInto⟩
    · rw [hInto] at hPrefix
      cases hClimbs : n.climbs <;> simp [hClimbs, List.replicate_succ] at hPrefix
    · rw [hInto, inner] at hPrefix
      exact ⟨hSame.trans hRelative.symm, (climbs_eq_of_replicate hPrefix).symm⟩
    · rw [hInto] at hPrefix
      cases hClimbs : n.climbs <;> simp [hClimbs, List.replicate_succ] at hPrefix
  · simp_all [inner]

end NormalPath

namespace Path

variable {base p q directory : Path}

theorem isInside_iff :
    p.isInside directory = true ↔ directory.normal.components <+: p.normal.components :=
  List.isPrefixOf_iff_prefix

theorem isAlongside_iff : p.IsAlongside q ↔
    p.isAbsolute = q.isAbsolute ∧ p.normal.climbs = q.normal.climbs := by
  have hCount : ∀ r : Path, r.normalize.components.count .up = r.normal.climbs := by
    intro r
    rw [normalize, NormalPath.components_toPath r.normal_proper,
      NormalPath.count_up_components r.normal_proper]
  rw [IsAlongside, hCount, hCount]

theorem normal_resolveIn (base p : Path) : (base.resolveIn p).normal = (base.join p).normal := by
  rw [resolveIn_eq, ← normalize, normal_normalize]

/-- A relative path is seen from an absolute directory by taking as many names off the directory as
the path climbs, and then going down. -/
theorem normal_join_of_climbs (hBase : base.isAbsolute = true) (hRelative : p.isAbsolute = false) :
    (base.join p).normal = ⟨true, 0,
      base.normal.names.take (base.normal.names.length - p.normal.climbs) ++ p.normal.names⟩ := by
  have hRoot : base.normal.absolute = true := base.absolute_normal.trans hBase
  have hForm : base.normal = ⟨true, 0, base.normal.names⟩ := by
    rw [← hRoot, ← base.normal_proper.climbs hRoot]
  rw [normal_join base hRelative, ← foldl_push_normal_inner hRelative, NormalPath.inner,
    List.foldl_append, hForm, NormalPath.foldl_push_climbs_of_absolute,
    NormalPath.foldl_push_names]

/-- A relative path folds to `.` if nothing is left of it. -/
theorem normalize_eq_here_iff (hRelative : p.isAbsolute = false) :
    p.normalize = ⟨"."⟩ ↔ p.normal.inner = [] := by
  constructor
  · intro hHere
    rw [← normal_normalize, hHere]
    decide +kernel
  · intro hEmpty
    rcases p.normal_proper.components_cases with ⟨hRoot, -⟩ | ⟨-, hSome, -⟩ | ⟨-, -, hForm⟩
    · cases (p.absolute_normal.trans hRelative).symm.trans hRoot
    · exact absurd hEmpty hSome
    · rw [normalize, NormalPath.toPath, hForm]
      rfl

/-- Seen from an absolute directory, paths that start from the same place lie inside each other as
they do by themselves. -/
theorem isInside_resolveIn_of_alongside (hBase : base.isAbsolute = true)
    (hAlongside : p.IsAlongside directory)
    (hHere : directory.normalize = ⟨"."⟩ → p.normalize = ⟨"."⟩) :
    p.isInside directory = true ↔
      (base.resolveIn p).isInside (base.resolveIn directory) = true := by
  obtain ⟨hKind, hClimbs⟩ := isAlongside_iff.mp hAlongside
  rw [isInside_iff, isInside_iff, normal_resolveIn, normal_resolveIn]
  cases hAbsolute : p.isAbsolute with
  | true =>
      rw [join, join, if_pos hAbsolute, if_pos (hKind.symm.trans hAbsolute)]
  | false =>
      have hOther := hKind.symm.trans hAbsolute
      rw [normal_join_of_climbs hBase hAbsolute, normal_join_of_climbs hBase hOther]
      refine Iff.trans ?_ (NormalPath.components_prefix_iff_of_absolute rfl rfl).symm
      rw [hClimbs, List.prefix_append_right_inj]
      refine NormalPath.components_prefix_iff_of_climbs (directory.absolute_normal.trans hOther)
        (p.absolute_normal.trans hAbsolute) hClimbs.symm fun hEmpty => ?_
      exact (normalize_eq_here_iff hAbsolute).mp
        (hHere ((normalize_eq_here_iff hOther).mpr hEmpty))

theorem isAlongside_of_isInside
    (hNamed : directory.isAbsolute = true ∨ directory.normalize.fileName? ≠ none)
    (hInside : p.isInside directory = true) : p.IsAlongside directory := by
  have hNames : directory.normal.absolute = true ∨ directory.normal.names ≠ [] := by
    refine hNamed.imp (fun hAbsolute => directory.absolute_normal.trans hAbsolute) fun hLast => ?_
    obtain ⟨s, hName⟩ := Option.ne_none_iff_exists'.mp hLast
    have hMem : Component.name s ∈ directory.normalize.components := by
      rw [components_eq]
      exact List.mem_append_right _ (List.mem_of_getLast? (fileName?_eq_some_iff.mp hName))
    rw [normalize, NormalPath.components_toPath directory.normal_proper] at hMem
    intro hNone
    unfold NormalPath.components at hMem
    split_ifs at hMem <;> simp [hNone] at hMem
  obtain ⟨hKind, hClimbs⟩ := NormalPath.start_eq_of_components_prefix directory.normal_proper
    p.normal_proper hNames (isInside_iff.mp hInside)
  rw [absolute_normal, absolute_normal] at hKind
  exact isAlongside_iff.mpr ⟨hKind, hClimbs⟩

/-- Seen from an absolute directory, paths that start from the same place lie inside each other
exactly if they do by themselves, where a directory that folds to `.` is asked only about itself.
What lies inside a directory that is absolute or has a name at its end starts from the same place as
it, and lies inside it wherever both are seen from. -/
theorem isInside_resolveIn_iff (base p directory : Path) (hBase : base.isAbsolute = true) :
    (p.IsAlongside directory → (directory.normalize = ⟨"."⟩ → p.normalize = ⟨"."⟩) →
      (p.isInside directory = true ↔
        (base.resolveIn p).isInside (base.resolveIn directory) = true)) ∧
    (directory.isAbsolute = true ∨ directory.normalize.fileName? ≠ none →
      p.isInside directory = true →
        p.IsAlongside directory ∧
          (base.resolveIn p).isInside (base.resolveIn directory) = true) := by
  refine ⟨isInside_resolveIn_of_alongside hBase, fun hNamed hInside => ?_⟩
  have hAlongside := isAlongside_of_isInside hNamed hInside
  refine ⟨hAlongside, (isInside_resolveIn_of_alongside hBase hAlongside fun hDot => ?_).mp hInside⟩
  rcases hNamed with hAbsolute | hName
  · have hSame := directory.isAbsolute_normalize
    rw [hDot, hAbsolute] at hSame
    exact absurd hSame (by decide)
  · exact absurd (hDot ▸ rfl) hName

theorem isInside_resolveIn_iff_climbing :
    (⟨"/p/q"⟩ : Path).isAbsolute = true ∧
    (⟨"x/../../lib/./a.h"⟩ : Path).IsAlongside ⟨"../lib"⟩ ∧
    (⟨"../lib"⟩ : Path).normalize ≠ ⟨"."⟩ ∧ (⟨"../lib"⟩ : Path).normalize.fileName? ≠ none ∧
    (⟨"x/../../lib/./a.h"⟩ : Path).isInside ⟨"../lib"⟩ = true ∧
    ((⟨"/p/q"⟩ : Path).resolveIn ⟨"x/../../lib/./a.h"⟩).isInside
      ((⟨"/p/q"⟩ : Path).resolveIn ⟨"../lib"⟩) = true := by
  have hBase : (⟨"/p/q"⟩ : Path).isAbsolute = true := by decide
  have hNamed : (⟨"../lib"⟩ : Path).normalize.fileName? ≠ none := by decide +kernel
  have hHere : (⟨"../lib"⟩ : Path).normalize ≠ ⟨"."⟩ := by decide +kernel
  have hInside : (⟨"x/../../lib/./a.h"⟩ : Path).isInside ⟨"../lib"⟩ = true := by decide +kernel
  obtain ⟨hSame, hOnly⟩ := isInside_resolveIn_iff ⟨"/p/q"⟩ ⟨"x/../../lib/./a.h"⟩ ⟨"../lib"⟩ hBase
  obtain ⟨hAlongside, -⟩ := hOnly (Or.inr hNamed) hInside
  exact ⟨hBase, hAlongside, hHere, hNamed, hInside,
    (hSame hAlongside fun hDot => absurd hDot hHere).mp hInside⟩

/-- Whether an absolute path lies inside a relative directory, or a relative path that leaves the
directory from which it is seen lies inside one below that, hangs on where they are seen from: no
answer given without it is right for all. -/
theorem isInside_depends_on_base :
    (⟨"/p"⟩ : Path).isAbsolute = true ∧ (⟨"/q"⟩ : Path).isAbsolute = true ∧
    ((⟨"/p/x"⟩ : Path).isInside ⟨"x"⟩ = false ∧
      ((⟨"/p"⟩ : Path).resolveIn ⟨"/p/x"⟩).isInside ((⟨"/p"⟩ : Path).resolveIn ⟨"x"⟩) = true ∧
      ((⟨"/q"⟩ : Path).resolveIn ⟨"/p/x"⟩).isInside ((⟨"/q"⟩ : Path).resolveIn ⟨"x"⟩) = false) ∧
    ((⟨"../p/x"⟩ : Path).isInside ⟨"x"⟩ = false ∧
      ((⟨"/p"⟩ : Path).resolveIn ⟨"../p/x"⟩).isInside ((⟨"/p"⟩ : Path).resolveIn ⟨"x"⟩) = true ∧
      ((⟨"/q"⟩ : Path).resolveIn ⟨"../p/x"⟩).isInside ((⟨"/q"⟩ : Path).resolveIn ⟨"x"⟩) =
        false) := by
  refine ⟨by decide, by decide, ⟨?_, ?_, ?_⟩, ?_, ?_, ?_⟩ <;> decide +kernel

end Path

end CallbackWeave

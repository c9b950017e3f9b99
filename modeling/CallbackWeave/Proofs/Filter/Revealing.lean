import CallbackWeave.Proofs.Filter.Nesting
import Mathlib.Data.List.Basic
import Mathlib.Data.List.Induction

/-!
Two walks over one text that differ in what is foreign. The fewer files are foreign, the more of the
text is left: at no line is the walk deeper, and every line of text that the other walk leaves is
left. To expand headers is a case of this. The markers of the two walks drift apart, since one of
them enters files that the other passes by; that is why the depths are compared and not the files.
-/

namespace CallbackWeave

namespace Boundary

variable {b other : Boundary} {fs : FileSystem} {name : String}

/-- With more source files, or with headers expanded, nothing more is foreign. -/
theorem isForeign_mono (hProject : b.project = other.project)
    (hExpand : other.expandHeaders = true → b.expandHeaders = true)
    (hSource : other.sourceExtensions ⊆ b.sourceExtensions)
    (hForeign : b.isForeign fs name = true) : other.isForeign fs name = true := by
  have hOutside : b.isOutside fs name = other.isOutside fs name := by
    rw [isOutside, isOutside, hProject]
  have hIsSource : other.isSource name = true → b.isSource name = true := by
    unfold isSource
    split
    · simpa using fun hMem => hSource hMem
    · simp
  have hFolds : b.expandHeaders = false → other.expandHeaders = false := by
    simpa only [← Bool.not_eq_true] using mt hExpand
  have hNoSource : b.isSource name = false → other.isSource name = false := by
    simpa only [← Bool.not_eq_true] using mt hIsSource
  simp only [isForeign, hOutside, Bool.and_eq_true, Bool.or_eq_true, Bool.not_eq_true']
    at hForeign ⊢
  exact hForeign.imp_right (Or.imp_left (And.imp hFolds hNoSource))

end Boundary

namespace Elision

/-- What the line at a position gives in a walk over all lines. -/
def givenAt (b : Boundary) (fs : FileSystem) (lines : List Bytes) (i : Nat) : Option Bytes :=
  lines[i]?.bind fun line => (step b fs (filter b fs (lines.take i)).depth line).2

/-- The line at a position is ordinary text, and the walk leaves it. -/
def leavesText (b : Boundary) (fs : FileSystem) (lines : List Bytes) (i : Nat) : Bool :=
  (lines[i]?.bind LineMarker.ofLine?).isNone && givenAt b fs lines i = lines[i]?

/-- The positions of ordinary text that a walk leaves, in order. -/
def keptText (b : Boundary) (fs : FileSystem) (lines : List Bytes) : List Nat :=
  (List.range lines.length).filter (leavesText b fs lines)

/-- A walk leaves no less than another one over the same lines. -/
structure Reveals (b other : Boundary) (fs : FileSystem) (lines : List Bytes) : Prop where
  depth_le : ∀ n, (filter b fs (lines.take n)).depth ≤ (filter other fs (lines.take n)).depth
  keptText : (keptText other fs lines).Sublist (keptText b fs lines)

section Positions

variable (b : Boundary) (fs : FileSystem)

theorem filter_concat (lines : List Bytes) (line : Bytes) :
    (filter b fs (lines ++ [line])).lines =
      (filter b fs lines).lines ++ (step b fs (filter b fs lines).depth line).2.toList := by
  simp [filter, filterFrom_append, filterFrom]

/-- What the lines give at their positions is all that a walk leaves. -/
theorem filter_lines_eq_givenAt (lines : List Bytes) :
    (filter b fs lines).lines = (List.range lines.length).filterMap (givenAt b fs lines) := by
  induction lines using List.reverseRecOn with
  | nil => rfl
  | append_singleton lines line ih =>
      have hBefore : ∀ i ∈ List.range lines.length,
          givenAt b fs (lines ++ [line]) i = givenAt b fs lines i := by
        intro i hi
        have hIndex := List.mem_range.mp hi
        rw [givenAt, givenAt, List.getElem?_append_left hIndex,
          List.take_append_of_le_length (Nat.le_of_lt hIndex)]
      have hLast : givenAt b fs (lines ++ [line]) lines.length =
          (step b fs (filter b fs lines).depth line).2 := by
        simp [givenAt]
      rw [filter_concat, ih, List.length_append, List.length_singleton, List.range_succ,
        List.filterMap_append, List.filterMap_congr hBefore]
      rw [List.filterMap_cons, List.filterMap_nil, hLast]
      cases (step b fs (filter b fs lines).depth line).2 <;> rfl

/-- Ordinary text is left exactly where the walk is in no foreign file. -/
theorem leavesText_iff {lines : List Bytes} {i : Nat} (hIndex : i < lines.length) :
    leavesText b fs lines i = true ↔
      LineMarker.ofLine? lines[i] = none ∧ (filter b fs (lines.take i)).depth = 0 := by
  rw [leavesText, givenAt, List.getElem?_eq_getElem hIndex]
  cases hMarker : LineMarker.ofLine? lines[i] <;> simp [step, hMarker]

end Positions

section Comparison

variable {b other : Boundary} {fs : FileSystem}
  (hForeign : ∀ name, b.isForeign fs name = true → other.isForeign fs name = true)

include hForeign

/-- One marker: the walk that is no deeper before it is no deeper after it. It may pass by a file
that the other one enters, but it enters none that the other one passes by. -/
theorem onMarker_depth_le {depth deeper : Nat} (hDepth : depth ≤ deeper) (marker : LineMarker) :
    (onMarker b fs depth marker).1 ≤ (onMarker other fs deeper marker).1 := by
  cases hEnter : marker.flags.enterFile with
  | true =>
      simp only [onMarker, hEnter, if_true]
      rcases Nat.eq_zero_or_pos depth with rfl | hInside
      · cases hHere : b.isForeign fs marker.file with
        | true =>
            rw [hForeign _ hHere]
            rcases Nat.eq_zero_or_pos deeper with rfl | hDeeper
            · simp
            · simp [hDeeper]
        | false => simp
      · rw [if_pos hInside, if_pos (Nat.lt_of_lt_of_le hInside hDepth)]
        exact Nat.add_le_add_right hDepth 1
  | false =>
      cases hReturn : marker.flags.returnToPrevious with
      | true => simpa [onMarker, hEnter, hReturn] using Nat.sub_le_sub_right hDepth 1
      | false => simpa [onMarker, hEnter, hReturn] using hDepth

theorem step_depth_le {depth deeper : Nat} (hDepth : depth ≤ deeper) (line : Bytes) :
    (step b fs depth line).1 ≤ (step other fs deeper line).1 := by
  cases hMarker : LineMarker.ofLine? line with
  | some marker => simpa only [step, hMarker] using onMarker_depth_le hForeign hDepth marker
  | none => simpa only [step, hMarker] using hDepth

theorem filterFrom_depth_le {depth deeper : Nat} (hDepth : depth ≤ deeper) (lines : List Bytes) :
    (filterFrom b fs depth lines).depth ≤ (filterFrom other fs deeper lines).depth := by
  induction lines generalizing depth deeper with
  | nil => exact hDepth
  | cons line rest ih => exact ih (step_depth_le hForeign hDepth line)

theorem reveals_of_isForeign (lines : List Bytes) : Reveals b other fs lines := by
  have hDepth : ∀ n, (filter b fs (lines.take n)).depth ≤ (filter other fs (lines.take n)).depth :=
    fun n => filterFrom_depth_le hForeign (Nat.le_refl 0) (lines.take n)
  have hLeaves : ∀ i ∈ List.range lines.length,
      leavesText other fs lines i = true → leavesText b fs lines i = true := by
    intro i hRange hLeft
    have hIndex := List.mem_range.mp hRange
    obtain ⟨hText, hZero⟩ := (leavesText_iff other fs hIndex).mp hLeft
    exact (leavesText_iff b fs hIndex).mpr ⟨hText, Nat.le_zero.mp (hZero ▸ hDepth i)⟩
  refine ⟨hDepth, ?_⟩
  -- What the other walk leaves is a part of what this one leaves.
  have hPart : keptText other fs lines =
      (keptText b fs lines).filter (leavesText other fs lines) := by
    rw [keptText, keptText, List.filter_filter]
    refine List.filter_congr fun i hRange => ?_
    cases hLeft : leavesText other fs lines i with
    | false => rfl
    | true => exact (hLeaves i hRange hLeft).symm
  rw [hPart]
  exact List.filter_sublist

end Comparison

/-- A walk leaves what the positions of the text give, in order. If no more files are foreign for it
than for another one, it leaves no less, whatever the lines are; and so if it expands headers and
the other one does not. -/
theorem filter_reveals :
    (∀ (b : Boundary) (fs : FileSystem) (lines : List Bytes),
      (filter b fs lines).lines = (List.range lines.length).filterMap (givenAt b fs lines)) ∧
    (∀ (b other : Boundary) (fs : FileSystem),
      (∀ name, b.isForeign fs name = true → other.isForeign fs name = true) →
        ∀ lines, Reveals b other fs lines) ∧
    ∀ (project : Path) (settings : FilterSettings) (fs : FileSystem) (lines : List Bytes),
      Reveals (.ofSettings project { settings with expandHeaders := true })
        (.ofSettings project { settings with expandHeaders := false }) fs lines := by
  refine ⟨filter_lines_eq_givenAt, fun b other fs hForeign lines => ?_, ?_⟩
  · exact reveals_of_isForeign hForeign lines
  · intro project settings fs lines
    refine reveals_of_isForeign (fun name => ?_) lines
    exact Boundary.isForeign_mono rfl (fun _ => rfl) (List.Subset.refl _)

/-- A source enters a header, and the header another file. Only one of the two returns is there. -/
def entering : List Bytes :=
  ["# 1 \"a.c\"", "int a;", "# 1 \"b.h\" 1", "int b;", "# 1 \"c.inc\" 1", "int c;",
    "# 2 \"b.h\" 2", "int d;"].map Utf8.encode

/-- If headers count as sources, the text of the header is left as well. -/
theorem filter_reveals_header :
    let b : Boundary := .ofSettings ⟨"/p"⟩ ⟨[".c", ".h"], [], false⟩
    let other : Boundary := .ofSettings ⟨"/p"⟩ ⟨[".c"], [], false⟩
    let fs : FileSystem := ⟨⟨[], []⟩, .empty⟩
    (∀ name, b.isForeign fs name = true → other.isForeign fs name = true) ∧
      Reveals b other fs entering ∧
      keptText other fs entering = [1] ∧ keptText b fs entering = [1, 3, 7] := by
  intro b other fs
  have hForeign : ∀ name, b.isForeign fs name = true → other.isForeign fs name = true :=
    fun name => Boundary.isForeign_mono rfl id (by decide +kernel)
  exact ⟨hForeign, filter_reveals.2.1 b other fs hForeign entering, by decide +kernel,
    by decide +kernel⟩

end Elision

end CallbackWeave

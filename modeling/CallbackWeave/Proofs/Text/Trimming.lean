import CallbackWeave.Text.Blank
import Mathlib.Data.List.DropRight

/-!
Lines without the blanks around them. Trimming is told by what it leaves and what it takes: a line is
blanks, then what trimming leaves of it, then blanks again, and what is left neither begins nor ends
with a blank. Nothing else has that shape.
-/

namespace CallbackWeave.Text

/-- Blank characters only. -/
def IsBlank (s : List Char) : Prop := ∀ c ∈ s, isBlank c = true

/-- A text that neither begins nor ends with a blank. -/
structure IsTrimmed (s : List Char) : Prop where
  first : ∀ c, s.head? = some c → isBlank c = false
  last : ∀ c, s.getLast? = some c → isBlank c = false

instance (s : List Char) : Decidable (IsBlank s) :=
  decidable_of_iff (s.all isBlank = true) List.all_eq_true

instance (s : List Char) : Decidable (IsTrimmed s) :=
  decidable_of_iff (s.head?.all (!isBlank ·) = true ∧ s.getLast?.all (!isBlank ·) = true) <| by
    simp only [Option.all_eq_true, Bool.not_eq_true']
    exact ⟨fun h => ⟨h.1, h.2⟩, fun h => ⟨h.first, h.last⟩⟩

variable {front line back : List Char}

theorem IsBlank.append (hFront : IsBlank front) (hBack : IsBlank back) : IsBlank (front ++ back) :=
  List.forall_mem_append.mpr ⟨hFront, hBack⟩

/-- Dropping blanks in front leaves a text that does not begin with one as it is. -/
theorem dropWhile_isBlank_append (hFront : IsBlank front)
    (hFirst : ∀ c, line.head? = some c → isBlank c = false) :
    (front ++ line).dropWhile isBlank = line := by
  rw [List.dropWhile_append_of_pos hFront]
  cases line with
  | nil => rfl
  | cons c rest => exact List.dropWhile_cons_of_neg (by simp [hFirst c rfl])

theorem head?_dropWhile_isBlank (line : List Char) (c : Char)
    (hHead : (line.dropWhile isBlank).head? = some c) : isBlank c = false := by
  have hAny := List.head?_dropWhile_not isBlank line
  rw [hHead] at hAny
  simpa using hAny

/-- Whatever blanks stand around a trimmed text, trimming leaves just the text. -/
theorem trim_surrounded (hFront : IsBlank front) (hLine : IsTrimmed line) (hBack : IsBlank back) :
    trim (front ++ line ++ back) = line := by
  by_cases hEmpty : line = []
  · subst hEmpty
    have hAll : (front ++ [] ++ back).dropWhile isBlank = [] := by
      rw [List.dropWhile_eq_nil_iff, List.append_nil]
      exact hFront.append hBack
    rw [trim, hAll]
    rfl
  · have hFirst : ∀ c, (line ++ back).head? = some c → isBlank c = false := by
      intro c hHead
      obtain ⟨first, rest, rfl⟩ := List.exists_cons_of_ne_nil hEmpty
      exact hLine.first c hHead
    have hLast : ∀ c, line.reverse.head? = some c → isBlank c = false := by
      intro c hHead
      exact hLine.last c (by rwa [List.head?_reverse] at hHead)
    have hReversed : IsBlank back.reverse := fun c hMem => hBack c (List.mem_reverse.mp hMem)
    rw [trim, List.append_assoc, dropWhile_isBlank_append hFront hFirst, List.reverse_append,
      dropWhile_isBlank_append hReversed hLast, List.reverse_reverse]

/-- What trimming takes off a line is blank, and what it leaves is trimmed. -/
theorem exists_surrounding (line : List Char) :
    ∃ front back, line = front ++ trim line ++ back ∧ IsBlank front ∧ IsBlank back ∧
      IsTrimmed (trim line) := by
  have hFront : IsBlank (line.takeWhile isBlank) := fun c hMem => List.mem_takeWhile_imp hMem
  have hBack : IsBlank ((line.dropWhile isBlank).rtakeWhile isBlank) :=
    fun c hMem => List.mem_rtakeWhile_imp hMem
  have hRest : trim line ++ (line.dropWhile isBlank).rtakeWhile isBlank =
      line.dropWhile isBlank := List.rdropWhile_append_rtakeWhile
  refine ⟨_, _, ?_, hFront, hBack, ?_, ?_⟩
  · rw [List.append_assoc, hRest, List.takeWhile_append_dropWhile]
  · intro c hHead
    refine head?_dropWhile_isBlank line c ?_
    rw [← hRest, List.head?_append, hHead]
    rfl
  · intro c hLast
    rw [trim, List.getLast?_reverse] at hLast
    exact head?_dropWhile_isBlank _ c hLast

/-- Blanks around a line do not matter. -/
theorem trim_append (hFront : IsBlank front) (hBack : IsBlank back) (line : List Char) :
    trim (front ++ line ++ back) = trim line := by
  obtain ⟨before, after, hLine, hBefore, hAfter, hTrimmed⟩ := exists_surrounding line
  generalize trim line = inside at hLine hTrimmed ⊢
  have hWhole : front ++ line ++ back = (front ++ before) ++ inside ++ (after ++ back) := by
    simp [hLine]
  rw [hWhole]
  exact trim_surrounded (hFront.append hBefore) hTrimmed (hAfter.append hBack)

theorem trim_of_isBlank (hLine : IsBlank line) : trim line = [] := by
  have hNothing : IsTrimmed [] := ⟨by simp, by simp⟩
  have hNoBack : IsBlank [] := by simp [IsBlank]
  simpa using trim_surrounded hLine hNothing hNoBack

end CallbackWeave.Text

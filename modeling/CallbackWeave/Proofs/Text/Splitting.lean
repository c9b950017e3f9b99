import Mathlib.Data.List.Basic

/-!
Sequences cut at a separator: the stretches between separators hold none, and what stands behind the
last separator is found again.
-/

namespace CallbackWeave.Text

variable {α : Type} [BEq α] [LawfulBEq α] {separator : α}

/-- What stands between separators holds none. -/
theorem notMem_of_mem_splitOn {text stretch : List α}
    (hStretch : stretch ∈ text.splitOn separator) : separator ∉ stretch := by
  induction text generalizing stretch with
  | nil =>
      obtain rfl : stretch = [] := by simpa using hStretch
      exact List.not_mem_nil
  | cons c rest ih =>
      rw [List.splitOn_cons_eq_if_modifyHead] at hStretch
      split at hStretch
      next =>
        rcases List.mem_cons.mp hStretch with rfl | hRest
        · exact List.not_mem_nil
        · exact ih hRest
      next hOther =>
        obtain ⟨first, others, hSplit⟩ :=
          List.exists_cons_of_ne_nil (List.splitOn_ne_nil separator rest)
        rw [hSplit, List.modifyHead_cons] at hStretch
        rcases List.mem_cons.mp hStretch with rfl | hMem
        · have hFirst : separator ∉ first := ih (hSplit ▸ List.mem_cons_self)
          have hHead : separator ≠ c := fun hSame => hOther (by simp [hSame])
          exact List.not_mem_cons_of_ne_of_not_mem hHead hFirst
        · exact ih (hSplit ▸ List.mem_cons_of_mem _ hMem)

omit [BEq α] [LawfulBEq α] in
/-- A sequence is cut at its last separator in one way only. -/
theorem append_separator_inj {front after front' after' : List α} (hAfter : separator ∉ after)
    (hOther : separator ∉ after')
    (hSame : front ++ separator :: after = front' ++ separator :: after') :
    front = front' ∧ after = after' := by
  rcases List.append_eq_append_iff.mp hSame with ⟨between, hFront, hRest⟩ |
    ⟨between, hFront, hRest⟩
  all_goals
    cases between with
    | nil => simp_all
    | cons first rest => simp_all

end CallbackWeave.Text

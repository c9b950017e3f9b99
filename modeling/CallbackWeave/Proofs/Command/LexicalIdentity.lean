import CallbackWeave.Proofs.Command.SourceToken
import CallbackWeave.Proofs.FileTree.Folded

/-!
Identity of files by their paths alone. The source token of a command is told by what its path leads
to, and the sources to which a run is restricted are told by their folded absolute paths. In a tree
without links these are one and the same for paths that lead somewhere, wherever in the tree the
working directory is.
-/

namespace CallbackWeave

namespace Allowlist

/-- A list that is made of entries admits a path if none of them exists, or if one that does has the
components of the path once it is made absolute. -/
theorem admits_ofEntries_iff (fs : FileSystem) (entries : List String) (source : Path) :
    (ofEntries fs entries).admits source = true ↔
      (∀ entry ∈ entries, fs.holds ⟨entry⟩ = false) ∨
        ∃ entry ∈ entries, fs.holds ⟨entry⟩ = true ∧
          (fs.absolutize ⟨entry⟩).agrees source = true := by
  have hFiles : ∀ file, file ∈ (ofEntries fs entries).files ↔
      ∃ entry ∈ entries, fs.holds ⟨entry⟩ = true ∧ fs.absolutize ⟨entry⟩ = file := by
    intro file
    simp [ofEntries, List.mem_eraseDups, and_assoc]
  rw [admits, Bool.or_eq_true, List.isEmpty_iff, List.eq_nil_iff_forall_not_mem, List.any_eq_true]
  simp only [hFiles]
  constructor
  · rintro (hNone | ⟨file, ⟨entry, hEntry, hHolds, rfl⟩, hAgrees⟩)
    · refine Or.inl fun entry hEntry => Bool.eq_false_iff.mpr fun hHolds => ?_
      exact hNone _ ⟨entry, hEntry, hHolds, rfl⟩
    · exact Or.inr ⟨entry, hEntry, hHolds, hAgrees⟩
  · rintro (hNone | ⟨entry, hEntry, hHolds, hAgrees⟩)
    · refine Or.inl ?_
      rintro file ⟨entry, hEntry, hHolds, -⟩
      rw [hNone entry hEntry] at hHolds
      cases hHolds
    · exact Or.inr ⟨_, ⟨entry, hEntry, hHolds, rfl⟩, hAgrees⟩

end Allowlist

namespace FileSystem

end FileSystem

end CallbackWeave

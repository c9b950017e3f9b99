import CallbackWeave.Pipeline.Artifacts
import CallbackWeave.Proofs.Path.Folding

/-!
Where the temporary files of a command stand. Each is an entry of the directory of the source, under
a name that no other of them has, and that is longer than the name of the source.
-/

namespace CallbackWeave

namespace Path

theorem mem_splitName {name : List Char} {c : Char} :
    (c ∈ (splitName name).1 → c ∈ name) ∧
      ∀ after, (splitName name).2 = some after → c ∈ after → c ∈ name := by
  unfold splitName
  simp only
  split_ifs
  · exact ⟨id, by simp⟩
  · refine ⟨List.mem_of_mem_take, fun after hAfter hMem => ?_⟩
    obtain rfl := Option.some.inj hAfter
    rw [List.mem_reverse] at hMem
    exact List.mem_reverse.mp ((List.takeWhile_subset _) hMem)

/-- The parts into which a name is cut at its last point make it up again. -/
theorem length_splitName (name : List Char) :
    name.length ≤ (splitName name).1.length + 1 +
      ((splitName name).2.elim 0 List.length) := by
  unfold splitName
  simp only
  split_ifs
  · simp only [Option.elim_none]
    omega
  · simp only [Option.elim_some, List.length_take]
    omega

theorem separator_notMem_stem {p : Path} {stem : String} (hStem : p.stem? = some stem) :
    '/' ∉ stem.toList := by
  obtain ⟨name, hName, rfl⟩ := Option.map_eq_some_iff.mp hStem
  rw [String.toList_ofList]
  exact fun hMem => (entryName_of_fileName? hName).no_separator (mem_splitName.1 hMem)

theorem separator_notMem_extension {p : Path} {extension : String}
    (hExtension : p.extension? = some extension) : '/' ∉ extension.toList := by
  obtain ⟨name, hName, hSplit⟩ := Option.bind_eq_some_iff.mp hExtension
  obtain ⟨after, hAfter, rfl⟩ := Option.map_eq_some_iff.mp hSplit
  rw [String.toList_ofList]
  exact fun hMem => (entryName_of_fileName? hName).no_separator (mem_splitName.2 after hAfter hMem)

end Path

namespace CompileCommand

theorem isAbsolute_sourcePath (c : CompileCommand) :
    c.sourcePath.isAbsolute = true ↔ c.directory.isAbsolute = true ∨ c.file.isAbsolute = true := by
  rw [sourcePath, Path.resolveIn_eq, ← Path.normalize, Path.isAbsolute_normalize,
    Path.isAbsolute_join_iff]

/-- A command that names its source from the root on, by its directory or by the file itself. The
root alone is no source. -/
def Anchored (c : CompileCommand) : Prop :=
  (c.directory.isAbsolute = true ∨ c.file.isAbsolute = true) ∧ c.sourcePath.parent?.isSome = true

instance (c : CompileCommand) : Decidable c.Anchored := inferInstanceAs (Decidable (_ ∧ _))

end CompileCommand

namespace Artifacts

/-- The name of a temporary file of a command. -/
def fileName (c : CompileCommand) (tag : String) : String :=
  name c.stem tag (c.sourcePath.extension?.getD "c")

/-- The path of a temporary file of a command. -/
@[irreducible] def beside (c : CompileCommand) (tag : String) : Path :=
  (c.sourcePath.parent?.getD ⟨""⟩).join ⟨fileName c tag⟩

theorem ofCommand_eq (c : CompileCommand) :
    ofCommand c = ⟨beside c "org", beside c "pp", beside c "new"⟩ := by
  unfold beside
  rfl

/-- The directory of the temporary files of a command, folded. -/
@[irreducible] def directory (c : CompileCommand) : NormalPath :=
  (c.directory.join c.file).normal.directory

theorem toList_fileName (c : CompileCommand) (tag : String) :
    (fileName c tag).toList = c.stem.toList ++ "__hookpass_".toList ++ tag.toList ++
      "__.".toList ++ (c.sourcePath.extension?.getD "c").toList := by
  simp [fileName, name]

/-- A temporary file can be an entry of a directory, whatever the source is called. -/
theorem entryName_fileName (c : CompileCommand) {tag : String} (hTag : '/' ∉ tag.toList) :
    EntryName (fileName c tag) := by
  have hStem : '/' ∉ c.stem.toList := by
    unfold CompileCommand.stem
    cases hStem : c.file.stem? with
    | none => simp
    | some stem => exact Path.separator_notMem_stem hStem
  have hExtension : '/' ∉ (c.sourcePath.extension?.getD "c").toList := by
    cases hExtension : c.sourcePath.extension? with
    | none => decide
    | some extension => exact Path.separator_notMem_extension hExtension
  have hMark : '_' ∈ (fileName c tag).toList := by simp [toList_fileName]
  refine ⟨?_, ?_, ?_, ?_⟩
  · exact List.ne_nil_of_mem hMark
  · intro hSame
    simp [hSame] at hMark
  · intro hSame
    simp [hSame] at hMark
  · simp [toList_fileName, hStem, hExtension, hTag]

/-- Two temporary files of one command have different names. -/
theorem fileName_injective (c : CompileCommand) : Function.Injective (fileName c) := by
  intro tag other hSame
  have hChars := congrArg String.toList hSame
  simp only [toList_fileName] at hChars
  exact String.toList_inj.mp (by simpa using hChars)

/-- A temporary file is resolved by the steps to its directory and then by its name. -/
theorem steps_beside (c : CompileCommand) {tag : String} (hTag : '/' ∉ tag.toList) :
    (beside c tag).steps = (directory c).steps ++ [.into (fileName c tag)] ∧
      (beside c tag).isAbsolute = (directory c).absolute := by
  obtain ⟨hMoves, hParent⟩ := NormalPath.moves_parent (c.directory.join c.file).normal_proper
  rw [← Path.resolveIn_eq, ← CompileCommand.sourcePath] at hMoves hParent
  obtain ⟨hSteps, hAbsolute⟩ :=
    Path.steps_join_name (c.sourcePath.parent?.getD ⟨""⟩) (entryName_fileName c hTag)
  unfold beside directory
  exact ⟨hSteps.trans (by rw [hMoves]), hAbsolute.trans hParent⟩

/-- The temporary files of a command are absolute paths if it names its source from the root on, and
otherwise none of them is. -/
theorem absolute_directory_iff (c : CompileCommand) :
    (directory c).absolute = true ↔ c.Anchored := by
  have hProper := (c.directory.join c.file).normal_proper
  unfold CompileCommand.Anchored
  rw [← CompileCommand.isAbsolute_sourcePath, CompileCommand.sourcePath, Path.resolveIn_eq,
    NormalPath.isAbsolute_toPath hProper]
  unfold directory NormalPath.directory
  generalize (c.directory.join c.file).normal = n at hProper
  split_ifs with hNames
  · -- An absolute path without names is the root, which has no parent.
    refine iff_of_false not_false ?_
    rintro ⟨hAbsolute, hParent⟩
    have hForm : n.components = [.root] := by
      rw [NormalPath.components, if_pos hAbsolute, hNames, List.map_nil]
    rw [Path.parent?, NormalPath.components_toPath hProper, hForm] at hParent
    cases hParent
  · have hInner : n.inner ≠ [] := by simp [NormalPath.inner, hNames]
    rw [NormalPath.parent?_toPath hProper hInner]
    simp

/-- Each temporary file of a command stands beside its source, under a name with some tag. -/
theorem exists_tag_of_mem_paths {c : CompileCommand} {path : Path}
    (hPath : path ∈ (ofCommand c).paths) :
    ∃ tag : String, '/' ∉ tag.toList ∧ path = beside c tag := by
  simp only [ofCommand_eq, paths, List.mem_cons, List.not_mem_nil, or_false] at hPath
  rcases hPath with rfl | rfl | rfl
  · exact ⟨"org", by decide, rfl⟩
  · exact ⟨"pp", by decide, rfl⟩
  · exact ⟨"new", by decide, rfl⟩

/-- A command that names its source from the root on has absolute paths only. -/
theorem isAbsolute_of_anchored {c : CompileCommand} (hAnchored : c.Anchored) {path : Path}
    (hPath : path ∈ c.sourcePath :: (ofCommand c).paths) : path.isAbsolute = true := by
  rcases List.mem_cons.mp hPath with rfl | hArtifact
  · exact c.isAbsolute_sourcePath.mpr hAnchored.1
  · obtain ⟨tag, hTag, rfl⟩ := exists_tag_of_mem_paths hArtifact
    rw [(steps_beside c hTag).2, absolute_directory_iff]
    exact hAnchored

theorem exists_steps_of_mem_paths {c : CompileCommand} {path : Path}
    (hPath : path ∈ (ofCommand c).paths) :
    ∃ name, path.steps = (directory c).steps ++ [.into name] := by
  obtain ⟨tag, hTag, rfl⟩ := exists_tag_of_mem_paths hPath
  exact ⟨_, (steps_beside c hTag).1⟩

end Artifacts

end CallbackWeave

import CallbackWeave.Proofs.Pipeline.Contract

/-!
The project with one source, whatever the source is called. General statements about units apply to
it, and the cases below them are cases of it.
-/

namespace CallbackWeave

variable {s : String}

/-- The sample tree holds no links, so that what is shown for such trees holds of it. -/
theorem FileTree.linkFree_sample (s : String) : (FileTree.sample s).LinkFree :=
  linkFree_of_entries fun place target => by simp [FileTree.sample]

theorem FileTree.get?_sample (s : String) :
    (FileTree.sample s).get? ["work"] = some .directory := rfl

section

variable (hName : EntryName s)

include hName

/-- The source of the sample is named, whatever its name is. -/
theorem Job.fileName?_sample : (Job.sample s).command.file.fileName? = some s :=
  Path.fileName?_of_entryName hName

theorem Job.normal_sample :
    ((Job.sample s).command.directory.join (Job.sample s).command.file).normal =
      ⟨true, 0, ["work", s]⟩ := by
  have hDirectory : (⟨"/work"⟩ : Path).normal = ⟨true, 0, ["work"]⟩ := by decide +kernel
  change ((⟨"/work"⟩ : Path).join ⟨s⟩).normal = _
  rw [Path.normal_join_name _ hName, hDirectory]
  rfl

theorem Job.sourcePath_sample : (Job.sample s).command.sourcePath = ⟨"/work/" ++ s⟩ := by
  rw [CompileCommand.sourcePath, Path.resolveIn_eq, Job.normal_sample hName]
  rw [NormalPath.toPath, Path.ofComponents]
  refine congrArg Path.mk (String.toList_inj.mp ?_)
  simp [NormalPath.components, Component.join, Component.text]

/-- The files of the project are resolved by two names. -/
theorem Job.steps_sample (f : UnitFile) :
    (f.path (Job.sample s).command).steps =
        [.into "work"] ++ [.into (f.name (Job.sample s).command s)] ∧
      (f.path (Job.sample s).command).isAbsolute = true := by
  obtain ⟨hSteps, hAbsolute⟩ := UnitFile.steps_path (Job.fileName?_sample hName) f
  have hDirectory : Artifacts.directory (Job.sample s).command = ⟨true, 0, ["work"]⟩ := by
    unfold Artifacts.directory
    rw [Job.normal_sample hName]
    rfl
  rw [hSteps, hAbsolute, hDirectory]
  exact ⟨rfl, rfl⟩

omit hName in
/-- The working directory of the sample is reached in one step, in any tree that has it. -/
theorem FileTree.descend_work {t : FileTree} (hWork : t.get? ["work"] = some .directory) :
    t.descend FileTree.linkLimit [] [.into "work"] = .ok (["work"], FileTree.linkLimit) := by
  have hShort : ¬ "work".utf8ByteSize > Path.nameLimit := by decide
  simp [FileTree.descend, hShort, hWork]

/-- The source is looked for in its directory, whatever else the tree holds. -/
theorem FileSystem.reaches_work (hReadable : '\x00' ∉ s.toList)
    (hShort : s.utf8ByteSize ≤ Path.nameLimit) {t : FileTree}
    (hWork : t.get? ["work"] = some .directory) :
    (⟨.sample, t⟩ : FileSystem).Reaches (Job.sample s).command.sourcePath ["work"] s := by
  obtain ⟨hSteps, hAbsolute⟩ := Job.steps_sample hName .source
  have hText := Job.sourcePath_sample hName
  refine ⟨by simpa [hText] using hReadable, ?_, hShort, [.into "work"], FileTree.linkLimit, hSteps,
    ?_⟩
  · have hFront : "/work/".utf8ByteSize = 6 := by decide
    rw [hText, Path.byteLength, String.utf8ByteSize_append, hFront]
    unfold Path.nameLimit at hShort
    unfold Path.lengthLimit
    omega
  · rw [FileSystem.start, if_pos (show (Job.sample s).command.sourcePath.isAbsolute = true from
      hAbsolute)]
    exact FileTree.descend_work hWork

/-- The source of the sample is found at its own location, if its name can be that of a file. -/
theorem FileSystem.locate_sample (hReadable : '\x00' ∉ s.toList)
    (hShort : s.utf8ByteSize ≤ Path.nameLimit) :
    (⟨.sample, .sample s⟩ : FileSystem).locate .target (Job.sample s).command.sourcePath =
      .ok ⟨["work", s], some (.file [0x41] false)⟩ := by
  refine (reaches_work hName hReadable hShort (FileTree.get?_sample s)).locate_of_entry .target ?_
    (by simp)
  simp [FileTree.sample, FileTree.get?, List.lookup_cons]

theorem FileSystem.isFile_sample (hReadable : '\x00' ∉ s.toList)
    (hShort : s.utf8ByteSize ≤ Path.nameLimit) :
    (⟨.sample, .sample s⟩ : FileSystem).isFile (Job.sample s).command.sourcePath = true := by
  simp only [isFile, locate_sample hName hReadable hShort]
  rfl

theorem FileSystem.content?_sample (hReadable : '\x00' ∉ s.toList)
    (hShort : s.utf8ByteSize ≤ Path.nameLimit) :
    (⟨.sample, .sample s⟩ : FileSystem).content? (Job.sample s).command.sourcePath =
      some [0x41] := by
  simp only [content?, entry?, locate_sample hName hReadable hShort]

/-- Read as a list, the source of the sample has one entry. -/
theorem ListFile.load_sample (hReadable : '\x00' ∉ s.toList)
    (hShort : s.utf8ByteSize ≤ Path.nameLimit) :
    ListFile.load ⟨.sample, .sample s⟩ (Job.sample s).command.sourcePath = .ok ["A"] := by
  have hDecoded : Utf8.decode? [0x41] = some "A" := by decide +kernel
  have hEntries : ListFile.ofText "A" = ["A"] := by decide +kernel
  rw [ListFile.load, FileSystem.readText_of_locate
    (FileSystem.locate_sample hName hReadable hShort) rfl hDecoded, ← hEntries]

/-- No temporary file is there, whether the system would take its name or not. -/
theorem FileSystem.entry?_sample {f : UnitFile} (hOther : f ≠ .source) :
    FileSystem.entry? ⟨.sample, .sample s⟩ (f.path (Job.sample s).command) = none := by
  obtain ⟨hSteps, hAbsolute⟩ := Job.steps_sample hName f
  rw [FileSystem.entry?]
  cases hLocate : (⟨.sample, .sample s⟩ : FileSystem).locate .target
      (f.path (Job.sample s).command) with
  | error cause => rfl
  | ok spot =>
      obtain ⟨directory, hReaches⟩ := exists_reaches_of_locate hSteps hLocate
      obtain ⟨-, left, hWay⟩ := hReaches.exists_descend hSteps
      rw [start, if_pos hAbsolute, FileTree.descend_work (FileTree.get?_sample s)] at hWay
      obtain ⟨rfl, -⟩ : ["work"] = directory ∧ _ := by simpa using hWay
      have hOwn : f.name (Job.sample s).command s ≠ s := fun hSame =>
        hOther (UnitFile.name_injective (Job.fileName?_sample hName) hSame)
      have hNone : (FileTree.sample s).get?
          (["work"] ++ [f.name (Job.sample s).command s]) = none := by
        simp [FileTree.sample, FileTree.get?, List.lookup_cons, beq_false_of_ne hOwn]
      rw [hReaches.locate_of_entry .target hNone (by simp)] at hLocate
      cases hLocate
      rfl

end

/-- No temporary file of the sample is a directory before the unit begins. -/
theorem FileSystem.isDirectory_sample (hName : EntryName s) :
    ∀ path ∈ (Artifacts.ofCommand (Job.sample s).command).paths,
      (⟨.sample, .sample s⟩ : FileSystem).isDirectory path = false := by
  intro path hPath
  obtain ⟨f, hOther, rfl⟩ := UnitFile.exists_of_mem_paths hPath
  simp only [isDirectory, entry?_sample hName hOther]

theorem entryName_sample : EntryName "a.c" := ⟨by decide, by decide, by decide, by decide⟩

/-- The source of the project is found at its place. -/
theorem FileSystem.canonical?_sample :
    (⟨.sample, .sample "a.c"⟩ : FileSystem).canonical? (Job.sample "a.c").command.sourcePath =
      some ["work", "a.c"] := by
  have hReaches := FileSystem.reaches_work entryName_sample (by decide) (by decide)
    (FileTree.get?_sample "a.c")
  obtain ⟨above, left, hSteps, hWay⟩ := hReaches.way
  exact (FileSystem.canonical?_eq_some_iff (FileTree.linkFree_sample _) hSteps).mpr
    ⟨hReaches.readable, hReaches.nameShort, _, _, hWay, rfl, rfl⟩

/-- The command of the project names its source once. -/
theorem CommandView.compilerOnly_sample :
    (sample "a.c").compilerOnly ⟨.sample, .sample "a.c"⟩ = .ok ["cc"] := by
  have hFound := FileSystem.canonical?_sample
  have hName : (⟨"a.c"⟩ : Path).fileName? = (Job.sample "a.c").command.sourcePath.fileName? := by
    decide +kernel
  have hPath : (Job.sample "a.c").command.directory.resolveIn ⟨"a.c"⟩ =
      (Job.sample "a.c").command.sourcePath := rfl
  have hArguments : (sample "a.c").arguments = [.compileOnly, .positional "a.c"] := by
    decide +kernel
  have hSource : (sample "a.c").namesSource ⟨.sample, .sample "a.c"⟩ (.positional "a.c") =
      true := by
    simp [namesSource, sample, FileSystem.sameFile, hPath, hFound, hName]
  have hOther : (sample "a.c").namesSource ⟨.sample, .sample "a.c"⟩ .compileOnly = false := rfl
  simp [compilerOnly, candidates, forPreprocessor, assemble, hArguments, hSource, hOther]
  rfl

end CallbackWeave

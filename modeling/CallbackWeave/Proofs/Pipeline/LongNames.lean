import CallbackWeave.Proofs.Pipeline.Effect

/-!
Sources with long names. The name of a temporary file is longer than that of its source, so that a
source can exist whose temporary files cannot. Such a unit fails as soon as the pipeline has to
write one of them itself, which is when the annotating tool finds nothing to write.
-/

namespace CallbackWeave

/-- Each character of a text takes up a byte at least. -/
theorem length_le_utf8ByteSize (s : String) : s.toList.length ≤ s.utf8ByteSize := by
  have hEncode : ∀ chars : List Char, chars.length ≤ chars.utf8Encode.size := by
    intro chars
    induction chars with
    | nil => simp
    | cons first rest ih =>
        have hFirst := first.utf8Size_pos
        rw [List.utf8Encode_cons, ByteArray.size_append, List.utf8Encode_singleton,
          List.size_toByteArray, String.length_utf8EncodeChar, List.length_cons]
        omega
  have hBytes := hEncode s.toList
  rwa [String.utf8Encode_toList] at hBytes

/-- An entry whose name is too long is not even looked for. -/
theorem FileSystem.locate_of_long {fs : FileSystem} {p : Path} {above : List Step} {name : String}
    {directory : Location} {left : Nat} (purpose : FileTree.Purpose)
    (hReadable : '\x00' ∉ p.text.toList) (hSteps : p.steps = above ++ [.into name])
    (hWay : fs.tree.descend FileTree.linkLimit (fs.start p) above = .ok (directory, left))
    (hLong : Path.nameLimit < name.utf8ByteSize) :
    fs.locate purpose p = .error .nameTooLong := by
  by_cases hShort : p.byteLength ≤ Path.lengthLimit
  · rw [locate_eq_walk purpose hReadable hShort (text_isEmpty_of_steps (by simp [hSteps])), hSteps,
      FileTree.walk_append _ _ _ _ _ _ (by simp) (by simp), hWay]
    simp [FileTree.walk, hLong]
  · rw [locate, if_pos (by simp [hReadable, Nat.not_le.mp hShort])]

namespace UnitFile

variable {site : Site} {c : CompileCommand} {sourceName : String} {t : FileTree}

/-- The temporary files of a source with a long name cannot be found, whatever there is. -/
theorem locate_of_long (hName : c.file.fileName? = some sourceName)
    (hLong : 241 ≤ sourceName.toList.length)
    (hSource : (⟨site, t⟩ : FileSystem).isFile c.sourcePath = true) (purpose : FileTree.Purpose)
    {f : UnitFile} (hOther : f ≠ .source) :
    (⟨site, t⟩ : FileSystem).locate purpose (f.path c) = .error .nameTooLong := by
  obtain ⟨place, content, executable, hLocate, -⟩ := FileSystem.exists_of_isFile hSource
  obtain ⟨hSteps, hAbsolute⟩ := steps_sourcePath hName
  obtain ⟨directory, hReaches⟩ := FileSystem.exists_reaches_of_locate hSteps hLocate
  obtain ⟨-, left, hWay⟩ := hReaches.exists_descend hSteps
  obtain ⟨hPathSteps, hPathAbsolute⟩ := steps_path hName f
  rw [FileSystem.start, hAbsolute, ← hPathAbsolute] at hWay
  refine FileSystem.locate_of_long purpose (readable_path hName hReaches.readable f) hPathSteps
    hWay ?_
  obtain rfl | ⟨tag, ⟨-, -, hTag⟩, -, hOwn⟩ := f.eq_source_or_exists_tag c sourceName
  · exact absurd rfl hOther
  · have hLength := length_fileName hName tag
    have hBytes := length_le_utf8ByteSize (Artifacts.fileName c tag)
    rw [hOwn, Path.nameLimit]
    omega

end UnitFile

namespace Pipeline

variable {σ : Type}

section

variable {p : Pipeline σ} {c : CompileCommand} {sourceName : String} {t : FileTree}
  (hName : c.file.fileName? = some sourceName) (hLong : 241 ≤ sourceName.toList.length)
  (hSource : (p.files t).isFile c.sourcePath = true)

include hName hLong hSource

theorem holds_of_long {f : UnitFile} (hOther : f ≠ .source) :
    (p.files t).holds (f.path c) = false := by
  have hLocate : (p.files t).locate .target (f.path c) = .error .nameTooLong :=
    UnitFile.locate_of_long hName hLong hSource .target hOther
  simp [FileSystem.holds, FileSystem.entry?, hLocate]

/-- There is nothing to clear. -/
theorem clear_of_long : p.clear c t = t := by
  refine Artifacts.clear_preserves (fun cleared => cleared = t) (fun path hPath cleared hSame => ?_)
    rfl
  obtain ⟨f, hOther, rfl⟩ := UnitFile.exists_of_mem_paths hPath
  have hHolds := holds_of_long hName hLong hSource hOther
  rw [hSame, Artifacts.clearPath, if_neg (by rw [← files, hHolds]; simp)]

/-- The source cannot be copied. -/
theorem copy_of_long :
    (p.files t).copy c.sourcePath (Artifacts.ofCommand c).merged = .error .nameTooLong := by
  have hTarget : (p.files t).locate .writing (Artifacts.ofCommand c).merged = .error .nameTooLong :=
    UnitFile.locate_of_long hName hLong hSource .writing (f := .merged) (by simp)
  obtain ⟨place, content, executable, hLocate, hDevice⟩ := FileSystem.exists_of_isFile hSource
  simp [FileSystem.copy, FileSystem.writable, hLocate, hDevice, hTarget, bind, Except.bind]

end

/-- A unit whose source has a long name, and which the annotating tool leaves alone, fails with the
system's word for it: the pipeline cannot copy the source to the place of the merged file. -/
theorem process_of_long_name (p : Pipeline σ) (job : Job) (w : World σ) {view : CommandView}
    {sourceName : String} (hName : job.command.file.fileName? = some sourceName)
    (hLong : 241 ≤ sourceName.toList.length)
    (hSource : (p.files w.tree).isFile job.command.sourcePath = true)
    (hAdmitted : p.allowlist.admits job.command.sourcePath = true)
    (hTokens : CommandView.ofCommand job.command = .ok view)
    (hQuiet : ∀ state found,
      (p.runner state (p.annotateCall job.command view) found).1 = .ok ⟨some 0⟩ ∧
        (p.runner state (p.annotateCall job.command view) found).2.2 = found) :
    (p.process job w).1 = .error (.pathIo job.command.sourcePath .nameTooLong) := by
  have hClear : Action.Ends (fun other : World σ => other.tree = w.tree)
      (Action.change (p.clear job.command))
      fun result other => result = .ok () ∧ other.tree = w.tree := by
    refine Action.Ends.change fun other hTree => ⟨rfl, ?_⟩
    dsimp only
    rw [hTree, clear_of_long hName hLong hSource]
  have hAnnotate : Action.Ends (fun other : World σ => other.tree = w.tree)
      (p.invoke job (p.annotateCall job.command view))
      fun result other => result = .ok () ∧ other.tree = w.tree := by
    rintro other hTree
    obtain ⟨hResult, hLeft⟩ := hQuiet other.state other.tree
    rw [invoke_eq, hResult]
    exact ⟨rfl, hLeft.trans hTree⟩
  have hCopy : Action.Ends (fun other : World σ => other.tree = w.tree) (p.copyThrough job)
      fun result _ => result = .error (.pathIo job.command.sourcePath .nameTooLong) := by
    refine (ends_announce p job .copyThrough fun _ _ h => h).step fun other hTree => ?_
    simp only [bind, Action.andThen, Action.tree]
    rw [hTree, copy_of_long hName hLong hSource]
    rfl
  have hStages : Action.Ends (fun other : World σ => other.tree = w.tree) (p.stages job view)
      fun result _ => result = .error (.pathIo job.command.sourcePath .nameTooLong) := by
    refine hClear.step ((ends_announce p job .annotate fun _ _ h => h).step
      (hAnnotate.step fun other hTree => ?_))
    have hHolds : (p.files other.tree).holds (Artifacts.ofCommand job.command).annotated = false :=
      hTree ▸ holds_of_long hName hLong hSource (f := .annotated) (by simp)
    have hFailed := hCopy other hTree
    simp only [bind, Action.andThen, Action.tree, hHolds, provideMerged]
    rw [if_neg Bool.false_ne_true]
    rcases hEnd : p.copyThrough job other with ⟨result, after⟩
    rw [hEnd] at hFailed
    subst hFailed
    rfl
  rw [p.process_eq hAdmitted hTokens]
  exact hStages w rfl

/-- Tools that find nothing to annotate, and that otherwise write what they read. -/
def passing : ToolFunction := fun i contents =>
  if i.stage = .annotate then none else some contents.flatten

/-- A name with an extension. -/
def longName (n : Nat) : String := String.ofList (List.replicate n 'a' ++ ['.', 'c'])

theorem entryName_longName (n : Nat) : EntryName (longName n) := by
  have hLast : 'c' ∈ (longName n).toList := by simp [longName]
  refine ⟨List.ne_nil_of_mem hLast, ?_, ?_, by simp [longName, List.mem_replicate]⟩
  · intro hSame
    simp [hSame] at hLast
  · intro hSame
    simp [hSame] at hLast

theorem quiet_passing (state : Unit) (found : FileTree) (i : Invocation)
    (hStage : i.stage = .annotate) :
    (obedient .standard .sample passing state i found).1 = .ok ⟨some 0⟩ ∧
      (obedient .standard .sample passing state i found).2.2 = found := by
  refine ⟨rfl, ?_⟩
  simp [obedient, passing, hStage]

/-- The sample with these tools. -/
def passingSample : Pipeline Unit := sample (obedient .standard .sample passing)

/-- Tools that keep their contract are not enough: the source of the sample can have a name with
which its unit does not succeed. -/
theorem process_effect_fails_of_long_name :
    (Job.sample (longName 240)).command.directory.isAbsolute = true ∧
      (Job.sample (longName 240)).command.file.fileName?.isSome = true ∧
      (FileTree.sample (longName 240)).LinkFree ∧
      (passingSample.files (.sample (longName 240))).isFile
        (Job.sample (longName 240)).command.sourcePath = true ∧
      (∀ path ∈ (Artifacts.ofCommand (Job.sample (longName 240)).command).paths,
        (passingSample.files (.sample (longName 240))).isDirectory path = false) ∧
      passingSample.Performs passing ∧
      passingSample.allowlist.admits (Job.sample (longName 240)).command.sourcePath = true ∧
      CommandView.ofCommand (Job.sample (longName 240)).command = .ok (.sample (longName 240)) ∧
      (passingSample.files (.sample (longName 240))).content?
        (Job.sample (longName 240)).command.sourcePath = some [0x41] ∧
      passing (passingSample.annotateCall (Job.sample (longName 240)).command
        (.sample (longName 240))) [[0x41]] = none ∧
      (passingSample.process (.sample (longName 240)) ⟨.sample (longName 240), (), []⟩).1 ≠
        .ok (.instrumented true) := by
  have hEntry := entryName_longName 240
  have hReadable : ∀ n, '\x00' ∉ (longName n).toList := by simp [longName, List.mem_replicate]
  have hLength : ∀ n, (longName n).toList.length = n + 2 := by simp [longName]
  have hShort : (longName 240).utf8ByteSize ≤ Path.nameLimit := by decide +kernel
  have hName := Job.fileName?_sample hEntry
  have hSource := FileSystem.isFile_sample hEntry (hReadable 240) hShort
  have hContent := FileSystem.content?_sample hEntry (hReadable 240) hShort
  have hTools : passingSample.Performs passing :=
    performs_obedient rfl fun i contents hStage => by simp [passing, hStage]
  have hAbsolute : (⟨"/work"⟩ : Path).isAbsolute = true := rfl
  have hFailed := process_of_long_name passingSample (.sample (longName 240))
    ⟨.sample (longName 240), (), []⟩ hName (by rw [hLength]; decide) hSource (admits_sample _ _)
    (CommandView.ofCommand_sample _) fun state found => quiet_passing state found _ rfl
  refine ⟨hAbsolute, by rw [hName]; rfl, FileTree.linkFree_sample _, hSource,
    FileSystem.isDirectory_sample hEntry, hTools, admits_sample _ _,
    CommandView.ofCommand_sample _, hContent, rfl, ?_⟩
  rw [hFailed]
  simp

end Pipeline

end CallbackWeave

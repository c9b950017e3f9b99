import CallbackWeave.Proofs.Pipeline.Actions
import CallbackWeave.Proofs.Pipeline.Scene
import CallbackWeave.Proofs.Pipeline.Tools

/-!
Tools that keep their contract. What a program writes is a function of its call and of the contents
of the files it reads, and it touches no other file. The contract is silent about calls whose files
cannot be read or written, and about relative paths, which each program sees from its own directory.
-/

namespace CallbackWeave

/-- The content of the file to which a path leads. -/
def FileSystem.content? (fs : FileSystem) (p : Path) : Option Bytes :=
  match fs.entry? p with
  | some (.file content _) => some content
  | _ => none

/-- A tree is another one after something has been written at a location, or nothing at all. -/
def FileTree.Written (found : FileTree) (place : Location) (content : Option Bytes)
    (left : FileTree) : Prop :=
  match content with
  | none => AgreeBeside [] found left
  | some bytes => left.Holds place (some bytes) ∧ AgreeBeside [place] found left

/-- What programs write, as a function of their calls and of what they read. -/
abbrev ToolFunction := Invocation → List Bytes → Option Bytes

namespace Pipeline

variable {σ : Type}

/-- The tools of a pipeline keep their contract. -/
structure Performs (p : Pipeline σ) (make : ToolFunction) : Prop where
  /-- A call that can be performed ends well, and writes what it has to. -/
  call : ∀ state i found inputs output contents spot,
    p.settings.inputs? i = some inputs → p.settings.output? i = some output →
    (∀ path ∈ output :: inputs, path.isAbsolute = true) →
    inputs.mapM (p.files found).content? = some contents →
    (p.files found).writable output = .ok spot →
      (p.runner state i found).1 = .ok ⟨some 0⟩ ∧
        found.Written spot.place (make i contents) (p.runner state i found).2.2
  /-- Only the annotating tool may find that there is nothing to write. -/
  writes : ∀ i contents, i.stage ≠ .annotate → (make i contents).isSome = true

/-- Programs that do what a function tells, and nothing where a file cannot be read or written. -/
def obedient (settings : PipelineSettings) (site : Site) (make : ToolFunction) : Runner Unit :=
  fun state i found =>
    let fs : FileSystem := ⟨site, found⟩
    let written := do
      let inputs ← settings.inputs? i
      let output ← settings.output? i
      let contents ← inputs.mapM fs.content?
      let spot ← (fs.writable output).toOption
      (make i contents).map fun bytes => found.put spot.place (.file bytes false)
    (.ok ⟨some 0⟩, state, written.getD found)

/-- The contract can be kept, whatever the tools are to write. -/
theorem performs_obedient {p : Pipeline Unit} {make : ToolFunction}
    (hRunner : p.runner = obedient p.settings p.site make)
    (hWrites : ∀ i contents, i.stage ≠ .annotate → (make i contents).isSome = true) :
    p.Performs make := by
  refine ⟨?_, hWrites⟩
  intro state i found inputs output contents spot hInputs hOutput hAbsolute hContents hSpot
  rw [files] at hContents hSpot
  refine ⟨by rw [hRunner, obedient], ?_⟩
  have hLeft : (p.runner state i found).2.2 =
      ((make i contents).map fun bytes => found.put spot.place (.file bytes false)).getD found := by
    rw [hRunner]
    simp [obedient, hInputs, hOutput, hContents, hSpot, Except.toOption]
  rw [hLeft]
  cases make i contents with
  | none => exact FileTree.AgreeBeside.refl _ _
  | some bytes =>
      have hPlace : spot.place ≠ [] := FileSystem.place_ne_nil_of_writable hSpot
      refine ⟨⟨false, ?_⟩, FileTree.AgreeBeside.put (List.mem_singleton_self _) hPlace _ _⟩
      simp [FileTree.get?_put _ _ _ _ hPlace]

end Pipeline

theorem UnitFile.isAbsolute_path {c : CompileCommand} {sourceName : String}
    (hName : c.file.fileName? = some sourceName) (hDirectory : c.directory.isAbsolute = true)
    (f : UnitFile) : (f.path c).isAbsolute = true := by
  rw [(steps_path hName f).2, ← (steps_sourcePath hName).2, CompileCommand.sourcePath,
    Path.resolveIn_eq, NormalPath.isAbsolute_toPath (Path.normal_proper _), Path.absolute_normal]
  cases hFile : c.file.isAbsolute with
  | true => rw [Path.join, if_pos hFile, hFile]
  | false => rw [Path.isAbsolute_join hFile, hDirectory]

namespace Scene

variable {σ : Type} {p : Pipeline σ} {c : CompileCommand} {sourceName : String}
  {before t : FileTree} {contents : UnitFile → Option Bytes}

theorem content?_eq (h : Scene p.site c before contents t)
    (hBefore : Workable p.site c sourceName before) (f : UnitFile) :
    (p.files t).content? (f.path c) = contents f := by
  have hFile := h.file f
  rw [FileSystem.content?, Pipeline.files, (h.workable hBefore).entry?_eq]
  cases hContent : contents f with
  | none =>
      rw [hContent] at hFile
      rw [show t.get? (p.site.place (f.path c)) = none from hFile]
  | some bytes =>
      rw [hContent] at hFile
      obtain ⟨executable, hEntry⟩ := hFile
      rw [hEntry]

theorem holds_eq (h : Scene p.site c before contents t)
    (hBefore : Workable p.site c sourceName before) (f : UnitFile) :
    (p.files t).holds (f.path c) = (contents f).isSome := by
  rw [FileSystem.holds, Pipeline.files, (h.workable hBefore).entry?_eq, (h.file f).isSome_eq]

/-- The tree in which a unit begins is a scene of its own. -/
theorem of_workable (hBefore : Workable p.site c sourceName before) :
    Scene p.site c before (fun f => (p.files before).content? (f.path c)) before := by
  refine ⟨fun f => ?_, fun _ _ => rfl⟩
  rw [FileSystem.content?, Pipeline.files, hBefore.entry?_eq]
  cases hEntry : before.get? (p.site.place (f.path c)) with
  | none => exact hEntry
  | some entry =>
      cases entry with
      | directory => exact absurd hEntry (hBefore.plain f)
      | file bytes executable => exact ⟨executable, hEntry⟩
      | link target => exact absurd hEntry (hBefore.linkFree _ target)

/-- What a call does to the files of a unit. -/
theorem written {f : UnitFile} {content : Option Bytes} {left : FileTree}
    (h : Scene p.site c before contents t) (hName : c.file.fileName? = some sourceName)
    (hWritten : t.Written (p.site.place (f.path c)) content left) :
    Scene p.site c before (content.elim contents fun bytes =>
      Function.update contents f (some bytes)) left := by
  cases content with
  | none =>
      constructor
      · intro g
        have hFile := h.file g
        unfold FileTree.Holds at hFile ⊢
        rwa [hWritten _ List.not_mem_nil]
      · intro place hPlace
        rw [hWritten _ List.not_mem_nil, h.beside place hPlace]
  | some bytes =>
      exact h.replace hName hWritten.1 fun place hPlace =>
        hWritten.2 place (by simpa using hPlace)

section

variable {make : ToolFunction} (hTools : p.Performs make)
  (hBefore : Workable p.site c sourceName before) (hDirectory : c.directory.isAbsolute = true)
  (job : Job) {i : Invocation} (reads : List UnitFile) (f : UnitFile) {read : List Bytes}
  (hInputs : p.settings.inputs? i = some (reads.map (UnitFile.path c)))
  (hOutput : p.settings.output? i = some (f.path c)) (hRead : reads.mapM contents = some read)

include hTools hBefore hDirectory hInputs hOutput hRead

/-- A call on files of a unit is performed. -/
theorem ends_invoke :
    Action.Ends (fun w => Scene p.site c before contents w.tree) (p.invoke job i) fun result w =>
      result = .ok () ∧ Scene p.site c before ((make i read).elim contents fun bytes =>
        Function.update contents f (some bytes)) w.tree := by
  intro w hStart
  have hContents : (reads.map (UnitFile.path c)).mapM (p.files w.tree).content? = some read := by
    have hSame : (p.files w.tree).content? ∘ UnitFile.path c = contents :=
      funext fun g => hStart.content?_eq hBefore g
    rw [List.mapM_map, hSame, hRead]
  have hAbsolute : ∀ path ∈ f.path c :: reads.map (UnitFile.path c), path.isAbsolute = true := by
    intro path hPath
    obtain ⟨g, rfl⟩ : ∃ g : UnitFile, path = g.path c := by
      rcases List.mem_cons.mp hPath with rfl | hPath
      · exact ⟨f, rfl⟩
      · obtain ⟨g, -, rfl⟩ := List.mem_map.mp hPath
        exact ⟨g, rfl⟩
    exact UnitFile.isAbsolute_path hBefore.name hDirectory g
  obtain ⟨hResult, hWritten⟩ := hTools.call w.state i w.tree _ _ _ _ hInputs hOutput hAbsolute
    hContents ((hStart.workable hBefore).writable_eq f)
  rw [Pipeline.invoke_eq, hResult]
  exact ⟨rfl, hStart.written hBefore.name hWritten⟩

/-- A call that has something to write writes it. -/
theorem ends_invoke_some {bytes : Bytes} (hMake : make i read = some bytes) :
    Action.Ends (fun w => Scene p.site c before contents w.tree) (p.invoke job i) fun result w =>
      result = .ok () ∧
        Scene p.site c before (Function.update contents f (some bytes)) w.tree := by
  have hPerformed := ends_invoke hTools hBefore hDirectory job reads f hInputs hOutput hRead
  rwa [hMake] at hPerformed

end

end Scene

end CallbackWeave

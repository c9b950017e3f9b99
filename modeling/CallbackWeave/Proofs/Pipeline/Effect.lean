import CallbackWeave.Proofs.Pipeline.Sample

/-!
The effect of a unit whose tools keep their contract. What its source holds in the end is told by
the tools alone, one applied to what the others have made; its temporary files are gone, and nothing
else has changed.
-/

namespace CallbackWeave.Pipeline

variable {σ : Type}

/-- What the merged file of a unit comes to hold: the merged text, or the source itself if there is
nothing to annotate. `tokens` is what the command of the unit leaves for the preprocessor. -/
def mergedContent (p : Pipeline σ) (make : ToolFunction) (c : CompileCommand) (view : CommandView)
    (tokens : List String) (source : Bytes) : Option Bytes :=
  match make (p.annotateCall c view) [source] with
  | none => some source
  | some annotated => do
    let expanded ← make (p.expandCall c view (tokens.drop 1)) [annotated]
    make (p.mergeCall c) [annotated, expanded]

/-- What the source of a unit comes to hold. -/
def instrumentedContent (p : Pipeline σ) (make : ToolFunction) (c : CompileCommand)
    (view : CommandView) (tokens : List String) (source : Bytes) : Option Bytes := do
  let merged ← p.mergedContent make c view tokens source
  make (p.instrumentCall c view) [merged]

variable {p : Pipeline σ} {make : ToolFunction} {job : Job} {view : CommandView}
  {tokens : List String} {sourceName : String} {before : FileTree} {source : Bytes}

/-- The source is as it was, and the merged file holds some content. -/
def Prepared (p : Pipeline σ) (job : Job) (before : FileTree) (source merged : Bytes)
    (w : World σ) : Prop :=
  ∃ contents, Scene p.site job.command before contents w.tree ∧
    contents .source = some source ∧ contents .merged = some merged

/-- The source holds some content, and there is no temporary file. -/
def Finished (p : Pipeline σ) (job : Job) (before : FileTree) (content : Bytes) (w : World σ) :
    Prop :=
  ∃ contents, Scene p.site job.command before contents w.tree ∧
    contents .source = some content ∧ ∀ f ≠ UnitFile.source, contents f = none

/-- Clearing the temporary files finishes a unit, whatever they hold. -/
theorem finished_clear (hBefore : Workable p.site job.command sourceName before)
    {contents : UnitFile → Option Bytes} {content : Bytes} {w : World σ}
    (hScene : Scene p.site job.command before contents w.tree)
    (hSource : contents .source = some content) :
    Finished p job before content { w with tree := p.clear job.command w.tree } := by
  refine ⟨Scene.cleared contents, ?_, hSource, fun f hOther => ?_⟩
  · dsimp only [clear, files]
    exact hScene.clear hBefore
  · cases f with
    | source => exact absurd rfl hOther
    | _ => rfl

section

variable (hTools : p.Performs make)
  (hBefore : Workable p.site job.command sourceName before)
  (hDirectory : job.command.directory.isAbsolute = true)

include hTools hBefore hDirectory

/-- The annotated source is expanded, and merged with its expansion. -/
theorem ends_expandAndMerge_performed {contents : UnitFile → Option Bytes} {annotated : Bytes}
    (hSource : contents .source = some source) (hAnnotated : contents .annotated = some annotated)
    (hExists : (before.get? (p.site.place job.command.sourcePath)).isSome = true)
    (hView : view.command = job.command)
    (hCompiler : view.compilerOnly (p.files before) = .ok tokens) :
    ∃ merged, (do
        let expanded ← make (p.expandCall job.command view (tokens.drop 1)) [annotated]
        make (p.mergeCall job.command) [annotated, expanded]) = some merged ∧
      Action.Ends (fun w => Scene p.site job.command before contents w.tree)
        (p.expandAndMerge job view)
        fun result w => result = .ok () ∧ Prepared p job before source merged w := by
  obtain ⟨expanded, hExpanded⟩ := Option.isSome_iff_exists.mp
    (hTools.writes (p.expandCall job.command view (tokens.drop 1)) [annotated]
      (by simp [expandCall]))
  obtain ⟨merged, hMerged⟩ := Option.isSome_iff_exists.mp
    (hTools.writes (p.mergeCall job.command) [annotated, expanded] (by simp [mergeCall]))
  have hExpandFiles := p.files_expandCall job.command view (tokens.drop 1)
  have hMergeFiles := p.files_mergeCall job.command
  refine ⟨merged, by rw [hExpanded, Option.bind_eq_bind, Option.bind_some, hMerged], ?_⟩
  have hCalls : Action.Ends (fun w => Scene p.site job.command before contents w.tree) (do
      p.invoke job (p.expandCall job.command view (tokens.drop 1))
      p.announce job .merge
      p.invoke job (p.mergeCall job.command))
      fun result w => result = .ok () ∧ Prepared p job before source merged w := by
    refine (Scene.ends_invoke_some hTools hBefore hDirectory job [.annotated] .expanded
      hExpandFiles.1 hExpandFiles.2 (by simp [hAnnotated]) hExpanded).step ?_
    refine (ends_announce p job .merge fun _ _ h => h).step ?_
    refine (Scene.ends_invoke_some hTools hBefore hDirectory job [.annotated, .expanded] .merged
      hMergeFiles.1 hMergeFiles.2 (by simp [hAnnotated]) hMerged).weaken
      (fun _ h => h) ?_
    exact fun _ _ h => ⟨h.1, _, h.2, by simp [hSource], by simp⟩
  refine (ends_announce p job .expand fun _ _ h => h).step ?_
  intro w hScene
  have hTokens : view.compilerOnly (p.files w.tree) = .ok tokens :=
    (hScene.compilerOnly_eq hBefore (by rw [hExists, hSource]; rfl) hView).trans hCompiler
  simp only [bind, Action.andThen, Action.tree, Action.ofExcept, hTokens]
  exact hCalls w hScene

omit hTools hDirectory in
/-- The source is copied if there is nothing to annotate. -/
theorem ends_copyThrough_performed {contents : UnitFile → Option Bytes}
    (hSource : contents .source = some source) (hMerged : contents .merged = none) :
    Action.Ends (fun w => Scene p.site job.command before contents w.tree) (p.copyThrough job)
      fun result w => result = .ok () ∧ Prepared p job before source source w := by
  refine (ends_announce p job .copyThrough fun _ _ h => h).step ?_
  intro w hScene
  obtain ⟨after, hCopy, hAfter⟩ := hScene.copy hBefore hSource hMerged
  have hFiles : (p.files w.tree).copy job.command.sourcePath
      (Artifacts.ofCommand job.command).merged = .ok after := hCopy
  simp only [bind, Action.andThen, Action.tree, hFiles, Action.change]
  exact ⟨trivial, _, hAfter, by simp [hSource], by simp⟩

/-- Either way the merged file is provided. -/
theorem ends_provideMerged_performed {contents : UnitFile → Option Bytes}
    (hSource : contents .source = some source) (hMerged : contents .merged = none)
    (hAnnotated : contents .annotated = make (p.annotateCall job.command view) [source])
    (hExists : (before.get? (p.site.place job.command.sourcePath)).isSome = true)
    (hView : view.command = job.command)
    (hCompiler : (make (p.annotateCall job.command view) [source]).isSome = true →
      view.compilerOnly (p.files before) = .ok tokens) :
    ∃ merged, p.mergedContent make job.command view tokens source = some merged ∧
      Action.Ends (fun w => Scene p.site job.command before contents w.tree)
        (p.provideMerged job view (contents .annotated).isSome)
        fun result w => result = .ok () ∧ Prepared p job before source merged w := by
  cases hMake : make (p.annotateCall job.command view) [source] with
  | none =>
      refine ⟨source, by rw [mergedContent, hMake], ?_⟩
      rw [hAnnotated, hMake]
      exact ends_copyThrough_performed hBefore hSource hMerged
  | some annotated =>
      rw [hMake] at hAnnotated hCompiler
      obtain ⟨merged, hMergedContent, hEnds⟩ := ends_expandAndMerge_performed hTools hBefore
        hDirectory hSource hAnnotated hExists hView (hCompiler rfl)
      refine ⟨merged, by rw [mergedContent, hMake]; exact hMergedContent, ?_⟩
      rw [hAnnotated]
      exact hEnds

/-- The last tool writes the source, and then the temporary files go. -/
theorem ends_conclude_performed {merged content : Bytes} (annotated : Bool)
    (hMake : make (p.instrumentCall job.command view) [merged] = some content) :
    Action.Ends (Prepared p job before source merged) (p.conclude job view annotated)
      fun result w => result = .ok (.instrumented (!annotated)) ∧
        Finished p job before content w := by
  have hFiles := p.files_instrumentCall job.command view
  rintro w ⟨contents, hScene, hSource, hMerged⟩
  have hConclude : Action.Ends (fun w => Scene p.site job.command before contents w.tree)
      (p.conclude job view annotated) fun result w =>
        result = .ok (.instrumented (!annotated)) ∧ Finished p job before content w := by
    refine (ends_announce p job .instrument fun _ _ h => h).step ?_
    refine (Scene.ends_invoke_some hTools hBefore hDirectory job [.merged] .source
      hFiles.1 hFiles.2 (by simp [hMerged]) hMake).step ?_
    refine (ends_announce p job .cleanup fun _ _ h => h).step ?_
    have hClear : Action.Ends (fun w => Scene p.site job.command before
        (Function.update contents .source (some content)) w.tree)
        (Action.change (σ := σ) (p.clear job.command))
        fun result w => result = .ok () ∧ Finished p job before content w :=
      Action.Ends.change fun _ h => ⟨rfl, finished_clear hBefore h (by simp)⟩
    exact hClear.step (Action.Ends.pure fun _ h => ⟨rfl, h⟩)
  exact hConclude w hScene

/-- The stages of a unit succeed, and their effect is that of the tools. -/
theorem ends_stages_performed (hContent : (p.files before).content? job.command.sourcePath =
      some source) (hView : view.command = job.command)
    (hCompiler : (make (p.annotateCall job.command view) [source]).isSome = true →
      view.compilerOnly (p.files before) = .ok tokens) :
    ∃ content, p.instrumentedContent make job.command view tokens source = some content ∧
      Action.Ends (fun w => w.tree = before) (p.stages job view) fun result w =>
        result = .ok (.instrumented (make (p.annotateCall job.command view) [source]).isNone) ∧
          Finished p job before content w := by
  have hFiles := p.files_annotateCall job.command view
  have hScene := Scene.of_workable hBefore
  have hExists : (before.get? (p.site.place job.command.sourcePath)).isSome = true := by
    have hHolds := (hScene.file .source).isSome_eq
    exact hHolds.trans (by rw [UnitFile.path, hContent]; rfl)
  generalize hStart : (fun f : UnitFile => (p.files before).content? (f.path job.command)) =
    contents at hScene
  have hSource : contents .source = some source := hStart ▸ hContent
  let annotated := (make (p.annotateCall job.command view) [source]).elim (Scene.cleared contents)
    fun bytes => Function.update (Scene.cleared contents) .annotated (some bytes)
  have hParts : annotated .source = some source ∧ annotated .merged = none ∧
      annotated .annotated = make (p.annotateCall job.command view) [source] := by
    cases hMake : make (p.annotateCall job.command view) [source] with
    | none => simp [annotated, hMake, Scene.cleared, hSource]
    | some bytes => simp [annotated, hMake, Scene.cleared, hSource]
  obtain ⟨merged, hMerged, hProvide⟩ := ends_provideMerged_performed hTools hBefore hDirectory
    hParts.1 hParts.2.1 hParts.2.2 hExists hView hCompiler
  obtain ⟨content, hMake⟩ := Option.isSome_iff_exists.mp
    (hTools.writes (p.instrumentCall job.command view) [merged] (by simp [instrumentCall]))
  refine ⟨content, by rw [instrumentedContent, hMerged, Option.bind_eq_bind, Option.bind_some,
    hMake], ?_⟩
  have hClear : Action.Ends (fun w : World σ => w.tree = before)
      (Action.change (p.clear job.command)) fun result w => result = .ok () ∧
        Scene p.site job.command before (Scene.cleared contents) w.tree := by
    refine Action.Ends.change fun w hTree => ⟨rfl, ?_⟩
    dsimp only [clear, files]
    rw [hTree]
    exact hScene.clear hBefore
  refine hClear.step ?_
  refine (ends_announce p job .annotate fun _ _ h => h).step ?_
  have hRead : [UnitFile.source].mapM (Scene.cleared contents) = some [source] := by
    simp [Scene.cleared, hSource]
  refine (Scene.ends_invoke hTools hBefore hDirectory job [.source] .annotated hFiles.1
    hFiles.2 hRead).step ?_
  intro w hHere
  have hHolds : (p.files w.tree).holds (Artifacts.ofCommand job.command).annotated =
      (annotated .annotated).isSome := Scene.holds_eq hHere hBefore .annotated
  have hRest : Action.Ends (fun w => Scene p.site job.command before annotated w.tree) (do
      p.provideMerged job view (annotated .annotated).isSome
      p.conclude job view (annotated .annotated).isSome) fun result w =>
        result = .ok (.instrumented (!(annotated .annotated).isSome)) ∧
          Finished p job before content w :=
    hProvide.step (ends_conclude_performed hTools hBefore hDirectory _ hMake)
  have hEnd := hRest w hHere
  rw [hParts.2.2, Option.not_isSome] at hEnd
  simp only [bind, Action.andThen, Action.tree, hHolds, hParts.2.2] at hEnd ⊢
  exact hEnd

end

/-- The effect of an admitted unit in a tree without links, in which its source is a file and none
of its temporary files is a directory. If the tools keep their contract, and no temporary file has a
longer name or path than the system takes, then the unit succeeds. It tells whether there was
nothing to annotate; its source holds what the tools make of what it held; no temporary file exists;
and no other location has changed. What the command leaves for the preprocessor has to be usable
only if there is something to annotate. -/
theorem process_effect (p : Pipeline σ) (job : Job) (w : World σ) (make : ToolFunction)
    {view : CommandView} {tokens : List String} {source : Bytes}
    (hDirectory : job.command.directory.isAbsolute = true)
    (hName : job.command.file.fileName?.isSome = true)
    (hFree : w.tree.LinkFree)
    (hSource : (p.files w.tree).isFile job.command.sourcePath = true)
    (hArtifacts : ∀ path ∈ (Artifacts.ofCommand job.command).paths,
      (p.files w.tree).isDirectory path = false)
    (hLimits : (Artifacts.ofCommand job.command).WithinLimits)
    (hTools : p.Performs make)
    (hAdmitted : p.allowlist.admits job.command.sourcePath = true)
    (hTokens : CommandView.ofCommand job.command = .ok view)
    (hContent : (p.files w.tree).content? job.command.sourcePath = some source)
    (hCompiler : (make (p.annotateCall job.command view) [source]).isSome = true →
      view.compilerOnly (p.files w.tree) = .ok tokens) :
    (p.process job w).1 =
        .ok (.instrumented (make (p.annotateCall job.command view) [source]).isNone) ∧
      (∃ content, p.instrumentedContent make job.command view tokens source = some content ∧
        (p.files (p.process job w).2.tree).content? job.command.sourcePath = some content) ∧
      (∀ path ∈ (Artifacts.ofCommand job.command).paths,
        (p.files (p.process job w).2.tree).holds path = false) ∧
      ∀ place ∉ (job.command.sourcePath :: (Artifacts.ofCommand job.command).paths).map
          p.site.place,
        (p.process job w).2.tree.get? place = w.tree.get? place := by
  obtain ⟨sourceName, hName⟩ := Option.isSome_iff_exists.mp hName
  have hBefore : Workable p.site job.command sourceName w.tree :=
    Workable.of_source hName hFree hSource hArtifacts hLimits
  have hView : view.command = job.command := CommandView.command_of_ofCommand hTokens
  obtain ⟨content, hMake, hStages⟩ := ends_stages_performed hTools hBefore hDirectory hContent hView
    hCompiler
  obtain ⟨hResult, contents, hScene, hHeld, -⟩ := hStages w rfl
  obtain ⟨final, hFinal, hFinalSource, hNone⟩ := finished_clear hBefore hScene hHeld
  rw [p.process_eq hAdmitted hTokens]
  refine ⟨hResult, ⟨content, hMake, ?_⟩, fun path hPath => ?_, fun place hPlace => ?_⟩
  · exact (hFinal.content?_eq hBefore .source).trans hFinalSource
  · obtain ⟨f, hOther, rfl⟩ := UnitFile.exists_of_mem_paths hPath
    rw [hFinal.holds_eq hBefore f, hNone f hOther]
    rfl
  · refine hFinal.beside place fun f hSame => hPlace ?_
    rw [hSame]
    exact List.mem_map_of_mem (UnitFile.mem_cons_paths job.command f)

/-- Tools that put a mark behind what they read. -/
def marking : ToolFunction := fun _ contents => some (contents.flatten ++ [0x0a])

/-- The sample with these tools. -/
def markingSample : Pipeline Unit := sample (obedient .standard .sample marking)

/-- The tree that they leave. -/
def markedTree : FileTree :=
  (markingSample.process (.sample "a.c") ⟨.sample "a.c", (), []⟩).2.tree

theorem process_effect_marking :
    (markingSample.process (.sample "a.c") ⟨.sample "a.c", (), []⟩).1 = .ok (.instrumented false) ∧
      (markingSample.files markedTree).content? (Job.sample "a.c").command.sourcePath =
        some [0x41, 0x0a, 0x41, 0x0a, 0x0a, 0x0a, 0x0a] ∧
      (∀ path ∈ (Artifacts.ofCommand (Job.sample "a.c").command).paths,
        (markingSample.files markedTree).holds path = false) ∧
      ∀ place ∉ ((Job.sample "a.c").command.sourcePath ::
          (Artifacts.ofCommand (Job.sample "a.c").command).paths).map markingSample.site.place,
        markedTree.get? place = (FileTree.sample "a.c").get? place := by
  have hSource := FileSystem.isFile_sample entryName_sample (by decide) (by decide)
  have hContent := FileSystem.content?_sample entryName_sample (by decide) (by decide)
  have hArtifacts := FileSystem.isDirectory_sample entryName_sample
  have hLimits : (Artifacts.ofCommand (Job.sample "a.c").command).WithinLimits := by
    unfold Artifacts.WithinLimits
    decide +kernel
  have hTools : markingSample.Performs marking := performs_obedient rfl fun _ _ _ => rfl
  obtain ⟨hResult, ⟨content, hMake, hHeld⟩, hNone, hBeside⟩ :=
    process_effect markingSample (.sample "a.c") ⟨.sample "a.c", (), []⟩ marking rfl
      (by rw [Job.fileName?_sample entryName_sample]; rfl) (FileTree.linkFree_sample _) hSource
      hArtifacts hLimits hTools (admits_sample _ _) (CommandView.ofCommand_sample _) hContent
      fun _ => CommandView.compilerOnly_sample
  obtain rfl := Option.some.inj hMake
  exact ⟨hResult, hHeld, hNone, hBeside⟩

end CallbackWeave.Pipeline

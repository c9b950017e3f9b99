import CallbackWeave.Pipeline.Batch
import CallbackWeave.Proofs.Pipeline.Sample

/-!
How a batch starts. What a request names is checked in a fixed order, and each check looks at the
tree as it was when the batch began. The main statement looks at every check by itself: a batch ends
with the first complaint in that order and has then done nothing at all, and where there is no
complaint it is the run over what has been read.
-/

namespace CallbackWeave

/-- The complaint of a check, if it has one. -/
def complaints {α : Type} : Except Failure α → List Failure
  | .ok _ => []
  | .error failure => [failure]

/-- A check reports the first of some failures; if there is none, it comes to a result of the given
kind. -/
def Reports {α : Type} (check : Except Failure α) (failures : List Failure) (good : α → Prop) :
    Prop :=
  match failures with
  | [] => ∃ a, check = .ok a ∧ good a
  | failure :: _ => check = .error failure

namespace Reports

variable {α β : Type}

theorem of_complaints (check : Except Failure α) :
    Reports check (complaints check) fun a => check = .ok a := by
  cases check with
  | ok a => exact ⟨a, rfl, rfl⟩
  | error failure => rfl

theorem pure {a : α} {good : α → Prop} (hGood : good a) : Reports (.ok a) [] good := ⟨a, rfl, hGood⟩

/-- Of two checks in a row the second one is heard only if the first one succeeds. -/
theorem bind {first : Except Failure α} {next : α → Except Failure β}
    {earlier later : List Failure} {middle : α → Prop} {good : β → Prop}
    (hFirst : Reports first earlier middle) (hNext : ∀ a, middle a → Reports (next a) later good) :
    Reports (first >>= next) (earlier ++ later) good := by
  cases earlier with
  | nil =>
      obtain ⟨a, rfl, hMiddle⟩ := hFirst
      exact hNext a hMiddle
  | cons failure others =>
      obtain rfl : first = .error failure := hFirst
      rfl

end Reports

namespace ToolSet

/-- The complaint about a tool of which a directory has no file. -/
def lacking (fs : FileSystem) (directory : Path) (tool : String) : List Failure :=
  if fs.isFile (directory.join ⟨tool⟩) then [] else [.toolNotFound tool directory]

theorem reports_find (fs : FileSystem) (directory : Path) (tool : String) :
    Reports (find fs directory tool) (lacking fs directory tool) (· = directory.join ⟨tool⟩) := by
  unfold find lacking
  split_ifs
  · exact ⟨_, rfl, rfl⟩
  · rfl

/-- The tools are looked for in the directory made absolute, and the first one that is not there is
reported. -/
theorem reports_locate (fs : FileSystem) (directory : Path) (settings : PipelineSettings) :
    Reports (locate fs directory settings)
      ([settings.annotateTool, settings.mergeTool, settings.instrumentTool].flatMap
        (lacking fs (fs.absolutize directory)))
      (· = within (fs.absolutize directory) settings) := by
  refine .bind (reports_find fs _ _) fun annotate hAnnotate => ?_
  refine .bind (reports_find fs _ _) fun merge hMerge => ?_
  refine .bind (reports_find fs _ _) fun instrument hInstrument => .pure ?_
  rw [hAnnotate, hMerge, hInstrument]
  rfl

end ToolSet

namespace BatchRequest

variable {σ : Type}

/-- All that keeps a batch from starting, in the order of the checks. Each check is looked at by
itself. -/
def hindrances (request : BatchRequest) (settings : PipelineSettings) (fs : FileSystem) :
    List Failure :=
  [settings.annotateTool, settings.mergeTool, settings.instrumentTool].flatMap
      (ToolSet.lacking fs (fs.absolutize request.toolDirectory)) ++
    (complaints (CompileDatabase.load fs request.compileCommands) ++
      (complaints (CallbackList.load fs request.callbacks) ++
        request.files.elim [] fun path => complaints (Allowlist.load fs path)))

/-- What the files of a request hold. Without a list of sources there is no restriction. -/
structure Holds (request : BatchRequest) (fs : FileSystem) (database : CompileDatabase)
    (callbacks : CallbackList) (allowlist : Allowlist) : Prop where
  database : CompileDatabase.load fs request.compileCommands = .ok database
  callbacks : CallbackList.load fs request.callbacks = .ok callbacks
  allowlist : request.files.elim (.ok .empty) (Allowlist.load fs) = .ok allowlist

/-- The checks of a batch, and what they leave for the run. -/
theorem reports_prepare (request : BatchRequest) (settings : PipelineSettings) (runner : Runner σ)
    (announces : Bool) (fs : FileSystem) :
    Reports (request.prepare settings runner announces fs) (request.hindrances settings fs)
      fun ready => ∃ callbacks allowlist,
        request.Holds fs ready.2 callbacks allowlist ∧
          ready.1 = ⟨.within (fs.absolutize request.toolDirectory) settings, callbacks, allowlist,
            settings, runner, fs.toSite, announces⟩ := by
  refine .bind (ToolSet.reports_locate fs _ settings) fun tools hTools => ?_
  refine .bind (.of_complaints _) fun database hDatabase => ?_
  refine .bind (.of_complaints _) fun callbacks hCallbacks => ?_
  subst hTools
  cases hFiles : request.files with
  | none =>
      have hHolds : request.Holds fs database callbacks .empty :=
        ⟨hDatabase, hCallbacks, by rw [hFiles]; rfl⟩
      exact .pure ⟨callbacks, .empty, hHolds, rfl⟩
  | some path =>
      change Reports _ (complaints _) _
      rw [← List.append_nil (complaints _)]
      refine .bind (.of_complaints _) fun allowlist hAllowlist => ?_
      have hHolds : request.Holds fs database callbacks allowlist :=
        ⟨hDatabase, hCallbacks, by rw [hFiles]; exact hAllowlist⟩
      exact .pure ⟨callbacks, allowlist, hHolds, rfl⟩

/-- A batch reads the tree once, before its first unit. -/
theorem execute_eq (request : BatchRequest) (settings : PipelineSettings) (runner : Runner σ)
    (announces : Bool) (site : Site) (w : World σ) :
    request.execute settings runner announces site w =
      match request.prepare settings runner announces ⟨site, w.tree⟩ with
      | .ok (pipeline, database) => pipeline.run database w
      | .error failure => (.error failure, w) := by
  change Action.andThen (Action.ofExcept _) _ w = _
  unfold Action.andThen Action.ofExcept
  cases request.prepare settings runner announces ⟨site, w.tree⟩ <;> rfl

/-- A batch that cannot start ends with the first failure of its checks and leaves the world as it
was: the tree, the state of the runner, and the record of calls and events. Any other batch is the
run over what has been read. -/
theorem execute_of_hindrances (request : BatchRequest) (settings : PipelineSettings)
    (runner : Runner σ) (announces : Bool) (site : Site) (w : World σ) :
    let fs : FileSystem := ⟨site, w.tree⟩
    (∀ failure, (request.hindrances settings fs).head? = some failure →
      request.execute settings runner announces site w = (.error failure, w)) ∧
    (request.hindrances settings fs = [] → ∃ database callbacks allowlist,
      request.Holds fs database callbacks allowlist ∧
        request.execute settings runner announces site w =
          Pipeline.run ⟨.within (fs.absolutize request.toolDirectory) settings, callbacks,
            allowlist, settings, runner, site, announces⟩ database w) := by
  intro fs
  have hPrepare := reports_prepare request settings runner announces fs
  rw [execute_eq]
  cases hHindrances : request.hindrances settings fs with
  | nil =>
      rw [hHindrances] at hPrepare
      obtain ⟨⟨pipeline, database⟩, hReady, callbacks, allowlist, hHolds, rfl⟩ := hPrepare
      refine ⟨fun failure hNone => (by cases hNone), fun _ => ?_⟩
      exact ⟨database, callbacks, allowlist, hHolds, by rw [hReady]⟩
  | cons first others =>
      rw [hHindrances] at hPrepare
      have hFailed : request.prepare settings runner announces fs = .error first := hPrepare
      refine ⟨fun failure hFirst => ?_, fun hNone => (by cases hNone)⟩
      obtain rfl := Option.some.inj hFirst
      rw [hFailed]

end BatchRequest

/-- The tree of a project whose only file is executable and holds an empty list of commands. -/
def FileTree.idle : FileTree :=
  ⟨[(["work"], .directory), (["work", "a.c"], .file [0x5b, 0x5d] true)]⟩

/-- A batch whose tools and callbacks are that file. -/
def BatchRequest.idle (compileCommands : Path) : BatchRequest :=
  ⟨⟨"/work"⟩, ⟨"/work/a.c"⟩, compileCommands, none⟩

/-- Settings by which that file is every tool but the one that merges. -/
def PipelineSettings.idle (mergeTool : String) : PipelineSettings := ⟨"a.c", mergeTool, "a.c", []⟩

theorem FileSystem.locate_idle : (⟨.sample, .idle⟩ : FileSystem).locate .target ⟨"/work/a.c"⟩ =
    .ok ⟨["work", "a.c"], some (.file [0x5b, 0x5d] true)⟩ := by
  have hReaches := reaches_work entryName_sample (by decide) (by decide)
    (show FileTree.idle.get? ["work"] = some .directory from rfl)
  exact hReaches.locate_of_entry .target (by decide +kernel) (by simp)

theorem ToolSet.lacking_idle :
    lacking ⟨.sample, .idle⟩ ⟨"/work"⟩ "a.c" = [] ∧
      lacking ⟨.sample, .idle⟩ ⟨"/work"⟩ "merge" = [.toolNotFound "merge" ⟨"/work"⟩] := by
  have hPath : (⟨"/work"⟩ : Path).join ⟨"a.c"⟩ = ⟨"/work/a.c"⟩ ∧
      (⟨"/work"⟩ : Path).join ⟨"merge"⟩ = (Job.sample "merge").command.sourcePath := by
    decide +kernel
  have hName : EntryName "merge" := ⟨by decide, by decide, by decide, by decide⟩
  have hReaches := FileSystem.reaches_work hName (by decide) (by decide)
    (show FileTree.idle.get? ["work"] = some .directory from rfl)
  have hMerge := hReaches.locate_of_entry .target
    (show FileTree.idle.get? ["work", "merge"] = none from by decide +kernel) (by simp)
  have hFile : (⟨.sample, .idle⟩ : FileSystem).isFile ⟨"/work/a.c"⟩ = true := by
    simp only [FileSystem.isFile, FileSystem.locate_idle]
    rfl
  exact ⟨by rw [lacking, hPath.1, if_pos hFile],
    by simp [lacking, hPath.2, FileSystem.isFile, hMerge]⟩

theorem CompileDatabase.load_idle :
    load ⟨.sample, .idle⟩ ⟨"/work/a.c"⟩ = .ok ⟨[]⟩ := by
  have hText : (⟨.sample, .idle⟩ : FileSystem).readText ⟨"/work/a.c"⟩ = .ok "[]" :=
    FileSystem.readText_of_locate FileSystem.locate_idle rfl (by decide +kernel)
  rw [load, hText]
  rfl

theorem CallbackList.load_idle :
    load ⟨.sample, .idle⟩ ⟨"/work/a.c"⟩ = .ok ⟨⟨"/work/a.c"⟩, ["[]"]⟩ := by
  have hPath : (⟨.sample, .idle⟩ : FileSystem).absolutize ⟨"/work/a.c"⟩ = ⟨"/work/a.c"⟩ := by
    decide +kernel
  have hText : (⟨.sample, .idle⟩ : FileSystem).readText ⟨"/work/a.c"⟩ = .ok "[]" :=
    FileSystem.readText_of_locate FileSystem.locate_idle rfl (by decide +kernel)
  have hNames : ListFile.ofText "[]" = ["[]"] := by decide +kernel
  rw [load, hPath, ListFile.load, hText, ← hNames]
  rfl

namespace BatchRequest

/-- A batch without a tool to merge and without a database is told of the tool. With both, it
runs. -/
theorem execute_of_hindrances_idle :
    let fs : FileSystem := ⟨.sample, .idle⟩
    let w : World Unit := ⟨.idle, (), []⟩
    ((BatchRequest.idle ⟨""⟩).hindrances (.idle "merge") fs).head? =
        some (.toolNotFound "merge" ⟨"/work"⟩) ∧
      (BatchRequest.idle ⟨""⟩).execute (.idle "merge") Pipeline.refusing true .sample w =
        (.error (.toolNotFound "merge" ⟨"/work"⟩), w) ∧
      (BatchRequest.idle ⟨"/work/a.c"⟩).hindrances (.idle "a.c") fs = [] ∧
      ∃ database callbacks allowlist,
        (BatchRequest.idle ⟨"/work/a.c"⟩).Holds fs database callbacks allowlist ∧
          (BatchRequest.idle ⟨"/work/a.c"⟩).execute (.idle "a.c") Pipeline.refusing true .sample w =
            Pipeline.run ⟨.within (fs.absolutize ⟨"/work"⟩) (.idle "a.c"), callbacks, allowlist,
              .idle "a.c", Pipeline.refusing, .sample, true⟩ database w := by
  intro fs w
  have hDirectory : fs.absolutize ⟨"/work"⟩ = ⟨"/work"⟩ := by decide +kernel
  obtain ⟨hThere, hMissing⟩ := ToolSet.lacking_idle
  have hFirst : ((BatchRequest.idle ⟨""⟩).hindrances (.idle "merge") fs).head? =
      some (.toolNotFound "merge" ⟨"/work"⟩) := by
    simp only [hindrances, BatchRequest.idle, PipelineSettings.idle, hDirectory, List.flatMap_cons]
    rw [hThere, hMissing]
    rfl
  have hNone : (BatchRequest.idle ⟨"/work/a.c"⟩).hindrances (.idle "a.c") fs = [] := by
    simp only [hindrances, BatchRequest.idle, PipelineSettings.idle, hDirectory, List.flatMap_cons]
    rw [hThere, CompileDatabase.load_idle, CallbackList.load_idle]
    rfl
  exact ⟨hFirst,
    (execute_of_hindrances _ _ Pipeline.refusing true .sample w).1 _ hFirst, hNone,
    (execute_of_hindrances _ _ Pipeline.refusing true .sample w).2 hNone⟩

end BatchRequest

end CallbackWeave

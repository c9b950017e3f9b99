import CallbackWeave.Proofs.Pipeline.Protocol
import CallbackWeave.Proofs.Pipeline.Sample

/-!
The files of a call as the program sees them. A program starts in the directory of its command and
resolves its arguments from there, while the pipeline looks at the same paths from where it started
itself. The two mean the same files if the command names its source from the root on. A relative
path is another file to each of them, unless the directories in which they start are the same above
what the path climbs.
-/

namespace CallbackWeave

/-- What a program sees that starts in some directory of a site. -/
def Site.startedIn (site : Site) (inside : Location) : Site :=
  { site with workingDirectory := inside }

/-- The files among the arguments of a call that do not come from the command: what its program
writes and reads, and the list of callbacks. -/
def PipelineSettings.ownFiles (s : PipelineSettings) (i : Invocation) : List Path :=
  (s.output? i).toList ++ (s.inputs? i).getD [] ++
    if i.stage = .instrument then (i.arguments[1]?.map Path.mk).toList else []

/-- A list of callbacks is known by its absolute path. -/
theorem CallbackList.isAbsolute_path_of_load {fs : FileSystem} {path : Path}
    {callbacks : CallbackList} (hLoad : load fs path = .ok callbacks) :
    callbacks.path.isAbsolute = true := by
  unfold load at hLoad
  cases hNames : ListFile.load fs (fs.absolutize path) with
  | error failure => rw [hNames] at hLoad; cases hLoad
  | ok names =>
      rw [hNames] at hLoad
      obtain rfl := Except.ok.inj hLoad
      exact fs.isAbsolute_absolutize path

namespace Site

variable {site : Site} {inside : Location}

/-- Everyone means the same by an absolute path. -/
theorem place_startedIn_of_isAbsolute {p : Path} (hAbsolute : p.isAbsolute = true) :
    (site.startedIn inside).place p = site.place p := by
  simp only [place, hAbsolute, if_true]

/-- A program sees a temporary file where the pipeline does if its path is absolute, or if the
directories in which they start are the same above what it climbs. -/
theorem place_startedIn_beside_iff (c : CompileCommand) {tag : String} (hTag : '/' ∉ tag.toList) :
    (site.startedIn inside).place (Artifacts.beside c tag) = site.place (Artifacts.beside c tag) ↔
      c.Anchored ∨ inside.rdrop (Artifacts.directory c).climbs =
        site.workingDirectory.rdrop (Artifacts.directory c).climbs := by
  rw [Artifacts.place_beside _ c hTag, Artifacts.place_beside _ c hTag, List.append_cancel_right_eq,
    ← Artifacts.absolute_directory_iff]
  unfold Artifacts.home startedIn
  cases hAbsolute : (Artifacts.directory c).absolute with
  | true => simp
  | false => simp [NormalPath.foldl_follow_steps]

/-- Then it sees the source where the pipeline does as well. -/
theorem place_startedIn_sourcePath {c : CompileCommand}
    (hAlike : c.Anchored ∨ inside.rdrop (Artifacts.directory c).climbs =
      site.workingDirectory.rdrop (Artifacts.directory c).climbs) :
    (site.startedIn inside).place c.sourcePath = site.place c.sourcePath := by
  rcases hAlike with hAnchored | hSame
  · exact place_startedIn_of_isAbsolute (c.isAbsolute_sourcePath.mpr hAnchored.1)
  · have hProper := (c.directory.join c.file).normal_proper
    -- The source itself may climb one directory more, but never less.
    have hClimbs : (Artifacts.directory c).climbs ≤ (c.directory.join c.file).normal.climbs := by
      unfold Artifacts.directory NormalPath.directory
      split_ifs
      · exact Nat.sub_le _ _
      · exact Nat.le_refl _
    obtain ⟨more, hMore⟩ := Nat.exists_eq_add_of_le hClimbs
    rw [CompileCommand.sourcePath, Path.resolveIn_eq, place_toPath _ hProper,
      place_toPath _ hProper, hMore, ← List.rdrop_add, ← List.rdrop_add, ← hSame]
    rfl

end Site

namespace Pipeline

variable {σ : Type}

section

variable (p : Pipeline σ) (c : CompileCommand) (view : CommandView) (rest : List String)

theorem ownFiles_annotateCall : p.settings.ownFiles (p.annotateCall c view) =
    [(Artifacts.ofCommand c).annotated, c.sourcePath] := by
  obtain ⟨hRead, hWritten⟩ := p.files_annotateCall c view
  rw [PipelineSettings.ownFiles, hRead, hWritten]
  rfl

theorem ownFiles_expandCall : p.settings.ownFiles (p.expandCall c view rest) =
    [(Artifacts.ofCommand c).expanded, (Artifacts.ofCommand c).annotated] := by
  obtain ⟨hRead, hWritten⟩ := p.files_expandCall c view rest
  rw [PipelineSettings.ownFiles, hRead, hWritten]
  rfl

theorem ownFiles_mergeCall : p.settings.ownFiles (p.mergeCall c) =
    [(Artifacts.ofCommand c).merged, (Artifacts.ofCommand c).annotated,
      (Artifacts.ofCommand c).expanded] := by
  obtain ⟨hRead, hWritten⟩ := p.files_mergeCall c
  rw [PipelineSettings.ownFiles, hRead, hWritten]
  rfl

theorem ownFiles_instrumentCall : p.settings.ownFiles (p.instrumentCall c view) =
    [c.sourcePath, (Artifacts.ofCommand c).merged, p.callbacks.path] := by
  obtain ⟨hRead, hWritten⟩ := p.files_instrumentCall c view
  rw [PipelineSettings.ownFiles, hRead, hWritten]
  rfl

end

section

variable {p : Pipeline σ} {c : CompileCommand} {view : CommandView} {i : Invocation}

/-- Every call of a unit names a temporary file. -/
theorem Makes.exists_beside_mem_ownFiles (hMade : p.Makes c view i) :
    ∃ tag : String, '/' ∉ tag.toList ∧ Artifacts.beside c tag ∈ p.settings.ownFiles i := by
  cases hMade with
  | annotate => exact ⟨"org", by decide, by simp [ownFiles_annotateCall, Artifacts.ofCommand_eq]⟩
  | expand rest => exact ⟨"pp", by decide, by simp [ownFiles_expandCall, Artifacts.ofCommand_eq]⟩
  | merge => exact ⟨"new", by decide, by simp [ownFiles_mergeCall, Artifacts.ofCommand_eq]⟩
  | instrument =>
      exact ⟨"new", by decide, by simp [ownFiles_instrumentCall, Artifacts.ofCommand_eq]⟩

/-- The files that a unit adds to its calls are its source, its temporary files and the list of
callbacks. -/
theorem Makes.ownFiles_subset (hMade : p.Makes c view i) :
    p.settings.ownFiles i ⊆ c.sourcePath :: p.callbacks.path :: (Artifacts.ofCommand c).paths := by
  cases hMade with
  | annotate => simp [ownFiles_annotateCall, Artifacts.paths]
  | expand rest => simp [ownFiles_expandCall, Artifacts.paths]
  | merge => simp [ownFiles_mergeCall, Artifacts.paths]
  | instrument => simp [ownFiles_instrumentCall, Artifacts.paths]

end

/-- The programs of a unit mean the same files as the pipeline, from wherever they start, exactly if
the command of the unit names its source from the root on, or if the directories in which they start
are the same above what the paths of the temporary files climb. -/
theorem ownFiles_alike_iff (p : Pipeline σ) (job : Job) (tree before : FileTree) (state : σ)
    (list : Path) (hCallbacks : CallbackList.load (p.files before) list = .ok p.callbacks) :
    ∀ call ∈ Happening.records (p.process job ⟨tree, state, []⟩).2.trace, ∀ inside : Location,
      (∀ path ∈ p.settings.ownFiles call.invocation,
        (p.site.startedIn inside).place path = p.site.place path) ↔
      job.command.Anchored ∨ inside.rdrop (Artifacts.directory job.command).climbs =
        p.site.workingDirectory.rdrop (Artifacts.directory job.command).climbs := by
  intro call hCall inside
  obtain ⟨view, -, hMade⟩ := p.exists_makes_of_mem_records job tree state call hCall
  constructor
  · intro hAll
    obtain ⟨tag, hTag, hBeside⟩ := hMade.exists_beside_mem_ownFiles
    exact (Site.place_startedIn_beside_iff job.command hTag).mp (hAll _ hBeside)
  · intro hAlike path hPath
    rcases List.mem_cons.mp (hMade.ownFiles_subset hPath) with rfl | hOther
    · exact Site.place_startedIn_sourcePath hAlike
    rcases List.mem_cons.mp hOther with rfl | hArtifact
    · exact Site.place_startedIn_of_isAbsolute (CallbackList.isAbsolute_path_of_load hCallbacks)
    · obtain ⟨tag, hTag, rfl⟩ := Artifacts.exists_tag_of_mem_paths hArtifact
      exact (Site.place_startedIn_beside_iff job.command hTag).mpr hAlike

/-- A pipeline with a list of callbacks that it has read, under which every call fails. -/
def instructed : Pipeline Unit :=
  { sample refusing with callbacks := ⟨⟨"/work/callbacks.txt"⟩, ["A"]⟩ }

theorem ownFiles_alike_iff_instructed :
    CallbackList.load (instructed.files (.sample "callbacks.txt")) ⟨"callbacks.txt"⟩ =
      .ok instructed.callbacks ∧
    ∀ call ∈ Happening.records (instructed.process .nested ⟨.nested, (), []⟩).2.trace,
      ∀ inside : Location,
        (∀ path ∈ instructed.settings.ownFiles call.invocation,
          (instructed.site.startedIn inside).place path = instructed.site.place path) ↔
        Job.nested.command.Anchored ∨
          inside.rdrop (Artifacts.directory Job.nested.command).climbs =
            instructed.site.workingDirectory.rdrop
              (Artifacts.directory Job.nested.command).climbs := by
  have hCallbacks : CallbackList.load (instructed.files (.sample "callbacks.txt"))
      ⟨"callbacks.txt"⟩ = .ok instructed.callbacks := by
    have hPath : (instructed.files (.sample "callbacks.txt")).absolutize ⟨"callbacks.txt"⟩ =
        (Job.sample "callbacks.txt").command.sourcePath := by decide +kernel
    have hSpelled : (Job.sample "callbacks.txt").command.sourcePath = ⟨"/work/callbacks.txt"⟩ := by
      decide +kernel
    have hList : ListFile.load (instructed.files (.sample "callbacks.txt"))
        (Job.sample "callbacks.txt").command.sourcePath = .ok ["A"] :=
      ListFile.load_sample ⟨by decide, by decide, by decide, by decide⟩ (by decide) (by decide)
    rw [CallbackList.load, hPath, hList, hSpelled]
    rfl
  exact ⟨hCallbacks, ownFiles_alike_iff instructed .nested .nested (.sample "callbacks.txt") ()
    ⟨"callbacks.txt"⟩ hCallbacks⟩

/-- The programs of a command that was recorded by a directory below look for its source in a
directory of that name below that one, where the pipeline does not mean it to be. -/
theorem ownFiles_apart_of_relative_directory :
    ¬ ∀ call ∈ Happening.records (instructed.process .nested ⟨.nested, (), []⟩).2.trace,
      ∀ path ∈ instructed.settings.ownFiles call.invocation,
        (instructed.site.startedIn (instructed.site.place call.invocation.directory)).place path =
          instructed.site.place path := by
  intro hAll
  have hSource := hAll
    ⟨instructed.annotateCall Job.nested.command .nested, .ok ⟨some 1⟩, _, _⟩
    (List.mem_singleton_self _) Job.nested.command.sourcePath (by simp [ownFiles_annotateCall])
  revert hSource
  decide +kernel

end Pipeline

end CallbackWeave

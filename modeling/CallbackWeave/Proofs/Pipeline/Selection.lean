import CallbackWeave.Proofs.FileTree.Place
import CallbackWeave.Proofs.Pipeline.Actions
import CallbackWeave.Proofs.Pipeline.ArtifactPaths
import CallbackWeave.Proofs.Pipeline.Tools

/-!
Which units are worked on. A list of sources that has been read holds folded absolute paths, and the
source of a command is looked up among them as it is spelled. It is found if it is absolute itself
and one of them. A source that is spelled from the working directory is never found, even if the
list holds the absolute path of the same file.
-/

namespace CallbackWeave

/-- What a list of sources holds once it has been read: nothing but paths made absolute. -/
theorem Allowlist.exists_absolutize_of_load {fs : FileSystem} {list : Path} {allowlist : Allowlist}
    (hLoad : load fs list = .ok allowlist) :
    ∀ file ∈ allowlist.files, ∃ entry, file = fs.absolutize entry := by
  unfold load at hLoad
  split_ifs at hLoad
  · cases hEntries : ListFile.load fs list with
    | error failure =>
        rw [hEntries] at hLoad
        cases hLoad
    | ok entries =>
        rw [hEntries] at hLoad
        obtain rfl := Except.ok.inj hLoad
        intro file hFile
        obtain ⟨entry, -, hEntry⟩ := List.mem_map.mp (List.mem_eraseDups.mp hFile)
        exact ⟨entry, hEntry.symm⟩
  · obtain rfl := Except.ok.inj hLoad
    simp [empty]

/-- A list that has been read admits a source if it is empty, or if the source is absolute and the
list holds it. -/
theorem Allowlist.admits_iff_of_load {fs : FileSystem} {list : Path} {allowlist : Allowlist}
    (hLoad : load fs list = .ok allowlist) (c : CompileCommand) :
    allowlist.admits c.sourcePath = true ↔ allowlist.files = [] ∨
      (c.directory.isAbsolute = true ∨ c.file.isAbsolute = true) ∧
        fs.absolutize (c.directory.join c.file) ∈ allowlist.files := by
  have hSource : c.sourcePath = (c.directory.join c.file).normal.toPath := Path.resolveIn_eq _ _
  -- Both sides of the comparison are folded, so that it is one of paths and not of components.
  have hFile : ∀ file ∈ allowlist.files, file.agrees c.sourcePath = true ↔ file = c.sourcePath := by
    intro file hMem
    obtain ⟨entry, rfl⟩ := exists_absolutize_of_load hLoad file hMem
    rw [hSource, fs.absolutize_eq]
    exact NormalPath.agrees_toPath_iff (Path.normal_proper _) (Path.normal_proper _)
  have hAny : allowlist.files.any (·.agrees c.sourcePath) = true ↔
      c.sourcePath ∈ allowlist.files := by
    rw [List.any_eq_true]
    constructor
    · rintro ⟨file, hMem, hAgrees⟩
      exact (hFile file hMem).mp hAgrees ▸ hMem
    · exact fun hMem => ⟨_, hMem, (hFile _ hMem).mpr rfl⟩
  have hSpelled : c.sourcePath.isAbsolute = true →
      fs.absolutize (c.directory.join c.file) = c.sourcePath := by
    intro hAbsolute
    rw [c.isAbsolute_sourcePath, ← Path.isAbsolute_join_iff] at hAbsolute
    rw [FileSystem.absolutize, if_pos hAbsolute, hSource, Path.normalize]
  rw [admits, Bool.or_eq_true, List.isEmpty_iff, hAny, ← c.isAbsolute_sourcePath]
  refine or_congr_right ⟨fun hMem => ?_, fun hListed => hSpelled hListed.1 ▸ hListed.2⟩
  obtain ⟨entry, hEntry⟩ := exists_absolutize_of_load hLoad _ hMem
  have hAbsolute : c.sourcePath.isAbsolute = true := hEntry ▸ fs.isAbsolute_absolutize entry
  exact ⟨hAbsolute, (hSpelled hAbsolute).symm ▸ hMem⟩

namespace Pipeline

variable {σ : Type}

/-- A unit that goes through its stages is not one that is skipped, whatever its calls do. -/
theorem ends_stages_worked (p : Pipeline σ) (job : Job) (view : CommandView) :
    Action.Ends (fun _ => True) (p.stages job view) fun result _ => result ≠ .ok .skipped := by
  have hFail : ∀ failure (w : World σ), (.error failure : Except Failure Outcome) ≠ .ok .skipped :=
    fun _ _ => by simp
  have hConclude : ∀ annotated, Action.Ends (fun _ => True) (p.conclude job view annotated)
      fun result _ => result ≠ .ok .skipped := by
    intro annotated
    refine Action.Ends.followed (fun _ => ?_) hFail
    refine Action.Ends.followed (fun _ => ?_) hFail
    refine Action.Ends.followed (fun _ => ?_) hFail
    refine Action.Ends.followed (fun _ => ?_) hFail
    exact fun w _ => by simp [Action.pure]
  refine Action.Ends.followed (fun _ => ?_) hFail
  refine Action.Ends.followed (fun _ => ?_) hFail
  refine Action.Ends.followed (fun _ => ?_) hFail
  refine Action.Ends.followed (fun tree => ?_) hFail
  exact Action.Ends.followed (fun _ => hConclude _) hFail

/-- A unit is skipped exactly if the list does not admit its source. -/
theorem process_eq_skipped_iff (p : Pipeline σ) (job : Job) (w : World σ) :
    (p.process job w).1 = .ok .skipped ↔ ¬ p.allowlist.admits job.command.sourcePath = true := by
  unfold process
  split_ifs with hAdmitted
  · have hWorked : Action.Ends (fun _ => True) (do
        let view ← Action.ofExcept (CommandView.ofCommand job.command)
        (p.stages job view).followedBy (p.clear job.command))
        fun result (_ : World σ) => result ≠ .ok .skipped :=
      Action.Ends.followed (fun view => Action.Ends.followedBy (p.ends_stages_worked job view))
        fun _ _ => by simp
    exact iff_of_false (hWorked w trivial) (not_not_intro hAdmitted)
  · have hSkipped : Action.Ends (fun _ => True) (do
        p.announce job .select
        Action.pure Outcome.skipped) fun result (_ : World σ) => result = .ok .skipped :=
      Action.Ends.step (ends_announce p job .select fun _ _ h => h) fun _ _ => rfl
    exact iff_of_true (hSkipped w trivial) hAdmitted

/-- With a list of sources that has been read, a unit is skipped unless the list is empty, or the
source is absolute by its directory or by itself and the list holds its folded path. In particular a
unit is skipped whose source is spelled from the working directory, whatever the list holds. -/
theorem process_skips_iff_of_load (p : Pipeline σ) (job : Job) (w : World σ) (before : FileTree)
    (list : Path) (hLoad : Allowlist.load (p.files before) list = .ok p.allowlist) :
    (p.process job w).1 = .ok .skipped ↔ ¬ (p.allowlist.files = [] ∨
      (job.command.directory.isAbsolute = true ∨ job.command.file.isAbsolute = true) ∧
        (p.files before).absolutize (job.command.directory.join job.command.file) ∈
          p.allowlist.files) := by
  rw [process_eq_skipped_iff, Allowlist.admits_iff_of_load hLoad]

end Pipeline

/-- The tree of a project whose only source is listed, as it is seen from above its directory. -/
def FileTree.listed : FileTree :=
  ⟨(["work", "files.txt"], .file [0x73, 0x75, 0x62, 0x2f, 0x61, 0x2e, 0x63] false) ::
    FileTree.nested.entries⟩

theorem FileSystem.locate_listed : (⟨.sample, .listed⟩ : FileSystem).locate .target ⟨"files.txt"⟩ =
    .ok ⟨["work", "files.txt"],
      some (.file [0x73, 0x75, 0x62, 0x2f, 0x61, 0x2e, 0x63] false)⟩ := by
  have hReaches : (⟨.sample, .listed⟩ : FileSystem).Reaches ⟨"files.txt"⟩ ["work"] "files.txt" :=
    reaches_of_steps (by decide) (by decide) (by decide) (by decide +kernel)
  exact hReaches.locate_of_entry .target (by decide +kernel) (by simp)

theorem FileSystem.holds_listed : (⟨.sample, .listed⟩ : FileSystem).holds ⟨"sub/a.c"⟩ = true := by
  have hStart : (⟨.sample, .listed⟩ : FileSystem).start ⟨"sub/a.c"⟩ = ["work"] := by
    decide +kernel
  have hSteps : (⟨"sub/a.c"⟩ : Path).steps = [.into "sub", .into "a.c"] := by decide +kernel
  have hShort : ¬ "sub".utf8ByteSize > Path.nameLimit ∧ ¬ "a.c".utf8ByteSize > Path.nameLimit := by
    decide
  have hDirectory : FileTree.listed.get? ["work", "sub"] = some .directory := by decide +kernel
  have hEntry : FileTree.listed.get? ["work", "sub", "a.c"] = some (.file [0x41] false) := by
    decide +kernel
  rw [holds, entry?, locate_eq_walk _ (by decide) (by decide) (by decide), hSteps, hStart]
  simp [FileTree.walk, hShort, hDirectory, hEntry]

theorem Allowlist.load_listed :
    load ⟨.sample, .listed⟩ ⟨"files.txt"⟩ = .ok ⟨[⟨"/work/sub/a.c"⟩]⟩ := by
  have hHolds : (⟨.sample, .listed⟩ : FileSystem).holds ⟨"files.txt"⟩ = true := by
    rw [FileSystem.holds, FileSystem.entry?, FileSystem.locate_listed]
    rfl
  have hText : (⟨.sample, .listed⟩ : FileSystem).readText ⟨"files.txt"⟩ = .ok "sub/a.c" :=
    FileSystem.readText_of_locate FileSystem.locate_listed rfl (by decide +kernel)
  have hEntries : ListFile.ofText "sub/a.c" = ["sub/a.c"] := by decide +kernel
  have hPath : (⟨.sample, .listed⟩ : FileSystem).absolutize ⟨"sub/a.c"⟩ = ⟨"/work/sub/a.c"⟩ := by
    decide +kernel
  have hFiles : ofEntries ⟨.sample, .listed⟩ ["sub/a.c"] = ⟨[⟨"/work/sub/a.c"⟩]⟩ := by
    simp only [ofEntries, List.map_cons, List.map_nil, FileSystem.holds_listed,
      List.filter_cons_of_pos, List.filter_nil, hPath]
    rfl
  rw [load, if_pos hHolds, ListFile.load, hText, ← hFiles, ← hEntries]
  rfl

namespace Pipeline

/-- A pipeline that is restricted to the source of that project, and under which every call
fails. -/
def restricted : Pipeline Unit :=
  { sample refusing with allowlist := ⟨[⟨"/work/sub/a.c"⟩]⟩ }

theorem process_skips_iff_restricted :
    Allowlist.load (restricted.files .listed) ⟨"files.txt"⟩ = .ok restricted.allowlist ∧
    ((restricted.process .nested ⟨.listed, (), []⟩).1 = .ok .skipped ↔
      ¬ (restricted.allowlist.files = [] ∨
        (Job.nested.command.directory.isAbsolute = true ∨
            Job.nested.command.file.isAbsolute = true) ∧
          (restricted.files .listed).absolutize
              (Job.nested.command.directory.join Job.nested.command.file) ∈
            restricted.allowlist.files)) :=
  ⟨Allowlist.load_listed, process_skips_iff_of_load restricted .nested ⟨.listed, (), []⟩ .listed
    ⟨"files.txt"⟩ Allowlist.load_listed⟩

/-- A unit of that project is skipped although the list holds the absolute path of its source, if it
was recorded with a relative directory. -/
theorem process_skips_listed :
    Allowlist.load (restricted.files .listed) ⟨"files.txt"⟩ = .ok restricted.allowlist ∧
    ¬ ((restricted.process .nested ⟨.listed, (), []⟩).1 = .ok .skipped ↔
      ¬ (restricted.allowlist.files = [] ∨
        (restricted.files .listed).absolutize
            (Job.nested.command.directory.join Job.nested.command.file) ∈
          restricted.allowlist.files)) := by
  have hSkipped : (restricted.process .nested ⟨.listed, (), []⟩).1 = .ok .skipped :=
    (process_eq_skipped_iff _ _ _).mpr (by decide +kernel)
  have hListed : (restricted.files .listed).absolutize
      (Job.nested.command.directory.join Job.nested.command.file) ∈ restricted.allowlist.files := by
    decide +kernel
  exact ⟨Allowlist.load_listed, fun hSkippedIff => hSkippedIff.mp hSkipped (Or.inr hListed)⟩

end Pipeline

end CallbackWeave

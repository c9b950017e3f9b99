import CallbackWeave.Proofs.Pipeline.Contract
import CallbackWeave.Proofs.Pipeline.Invariant
import CallbackWeave.Proofs.Pipeline.Sample

/-!
What a run leaves alone. With tools that write nothing but the file a call names as its output, a
run changes nothing beside the sources of the units that are admitted and their temporary files,
whether it succeeds or not. A source that is skipped is among these only if it has the name of a
temporary file, and then it is cleared away.
-/

namespace CallbackWeave

namespace FileTree

/-- A tree without links that is as another one was beside some locations. -/
structure Spares (t : FileTree) (places : List Location) (before : FileTree) : Prop where
  linkFree : t.LinkFree
  agree : AgreeBeside places before t

namespace Spares

variable {places more : List Location} {before t : FileTree} {site : Site} {c : CompileCommand}

/-- A change at some of the locations that leaves no link. -/
theorem change {after : FileTree} (h : t.Spares places before) (hFree : after.LinkFree)
    (hAgree : AgreeBeside more t after) (hMore : more ⊆ places) : after.Spares places before :=
  ⟨hFree, h.agree.trans (hAgree.mono hMore)⟩

theorem clear (h : t.Spares places before) (hPlaces : Artifacts.places site c ⊆ places) :
    ((Artifacts.ofCommand c).clear ⟨site, t⟩).Spares places before := by
  have hFree : ((Artifacts.ofCommand c).clear ⟨site, t⟩).LinkFree := fun place target hLink =>
    h.linkFree place target (Artifacts.get?_of_get?_clear hLink)
  exact h.change hFree (Artifacts.agreeBeside_clear h.linkFree (.refl _ _)) hPlaces

theorem copy {source path : Path} {after : FileTree} (h : t.Spares places before)
    (hPlaces : Artifacts.places site c ⊆ places) (hPath : path ∈ (Artifacts.ofCommand c).paths)
    (hCopy : (⟨site, t⟩ : FileSystem).copy source path = .ok after) :
    after.Spares places before := by
  obtain ⟨spot, hLocate, hTree⟩ := FileSystem.exists_spot_of_copy hCopy
  have hPlace : spot.place = site.place path := FileSystem.place_of_locate h.linkFree hLocate
  have hMem : spot.place ∈ Artifacts.places site c := hPlace ▸ Artifacts.mem_places site hPath
  obtain ⟨name, hName⟩ := Artifacts.eq_of_mem_places hMem
  have hBelow : spot.place ≠ [] := by simp [hName]
  rcases hTree with rfl | ⟨content, executable, rfl⟩
  · exact h
  · exact h.change (h.linkFree.put_file hBelow _ _) (.put hMem hBelow _ _) hPlaces

end Spares

end FileTree

/-- The locations of the files of a unit. -/
def CompileCommand.places (site : Site) (c : CompileCommand) : List Location :=
  site.place c.sourcePath :: Artifacts.places site c

/-- Absolute folded paths that stand at one location are the same. -/
theorem CompileCommand.sourcePath_eq_of_place {site : Site} {c other : CompileCommand}
    (hAbsolute : c.sourcePath.isAbsolute = true) (hOther : other.sourcePath.isAbsolute = true)
    (hPlace : site.place c.sourcePath = site.place other.sourcePath) :
    c.sourcePath = other.sourcePath := by
  have hProper := (c.directory.join c.file).normal_proper
  have hOtherProper := (other.directory.join other.file).normal_proper
  simp only [CompileCommand.sourcePath, Path.resolveIn_eq] at hAbsolute hOther hPlace ⊢
  generalize (c.directory.join c.file).normal = n at *
  generalize (other.directory.join other.file).normal = m at *
  rw [NormalPath.isAbsolute_toPath hProper] at hAbsolute
  rw [NormalPath.isAbsolute_toPath hOtherProper] at hOther
  rw [site.place_toPath hProper, site.place_toPath hOtherProper, if_pos hAbsolute,
    if_pos hOther] at hPlace
  obtain ⟨absolute, climbs, names⟩ := n
  obtain ⟨otherAbsolute, otherClimbs, otherNames⟩ := m
  obtain rfl : absolute = otherAbsolute := hAbsolute.trans hOther.symm
  obtain rfl : climbs = otherClimbs :=
    (hProper.climbs hAbsolute).trans (hOtherProper.climbs hOther).symm
  obtain rfl : names = otherNames := hPlace
  rfl

namespace Pipeline

variable {σ : Type}

/-- The tools of a pipeline write nothing but the file that a call names as its output, and they
write no links. Nothing is said of trees that have links already, nor of relative paths, which each
program sees from its own directory. -/
def WritesOutputOnly (p : Pipeline σ) : Prop :=
  ∀ state i found output, p.settings.output? i = some output → output.isAbsolute = true →
    found.LinkFree → (p.runner state i found).2.2.LinkFree ∧
      FileTree.AgreeBeside [p.site.place output] found (p.runner state i found).2.2

theorem Makes.exists_output {p : Pipeline σ} {c : CompileCommand} {view : CommandView}
    {i : Invocation} (hMade : p.Makes c view i) :
    ∃ output ∈ c.sourcePath :: (Artifacts.ofCommand c).paths,
      p.settings.output? i = some output := by
  cases hMade with
  | annotate => exact ⟨_, by simp [Artifacts.paths], (p.files_annotateCall c view).2⟩
  | expand rest => exact ⟨_, by simp [Artifacts.paths], (p.files_expandCall c view rest).2⟩
  | merge => exact ⟨_, by simp [Artifacts.paths], (p.files_mergeCall c).2⟩
  | instrument => exact ⟨_, by simp, (p.files_instrumentCall c view).2⟩

/-- Whatever a unit does, it spares everything beside its own files. -/
theorem unitInvariant_spared {p : Pipeline σ} {c : CompileCommand} {places : List Location}
    {before : FileTree} (hTools : p.WritesOutputOnly) (hAnchored : c.Anchored)
    (hPlaces : c.places p.site ⊆ places) :
    p.UnitInvariant c fun w => w.tree.Spares places before := by
  have hArtifacts : Artifacts.places p.site c ⊆ places :=
    List.Subset.trans (List.subset_cons_self _ _) hPlaces
  constructor
  case event => exact fun w event hStart => hStart
  case clear =>
    intro w hStart
    dsimp only [clear, files]
    exact hStart.clear hArtifacts
  case copy =>
    intro w tree hStart hCopy
    rw [files] at hCopy
    exact hStart.copy hArtifacts (by simp [Artifacts.paths]) hCopy
  case call =>
    intro w view i hView hIssued hStart
    obtain ⟨output, hOutput, hWritten⟩ := hIssued.makes.exists_output
    obtain ⟨hFree, hBeside⟩ := hTools w.state i w.tree output hWritten
      (Artifacts.isAbsolute_of_anchored hAnchored hOutput) hStart.linkFree
    have hMem : p.site.place output ∈ places := hPlaces (List.mem_map_of_mem hOutput)
    exact hStart.change hFree hBeside (List.cons_subset.mpr ⟨hMem, List.nil_subset _⟩)

/-- The locations of the files of those units that are admitted. -/
def worked (p : Pipeline σ) (commands : List CompileCommand) : List Location :=
  (commands.filter fun c => p.allowlist.admits c.sourcePath).flatMap fun c => c.places p.site

/-- A run changes nothing beside the files of the units that are admitted. -/
theorem run_agreeBeside (p : Pipeline σ) (database : CompileDatabase) (tree : FileTree) (state : σ)
    (hFree : tree.LinkFree) (hTools : p.WritesOutputOnly)
    (hAnchored : ∀ c ∈ database.commands, c.Anchored) :
    FileTree.AgreeBeside (p.worked database.commands) tree
      (p.run database ⟨tree, state, []⟩).2.tree := by
  have hUnits : ∀ job : Job, job.command ∈ database.commands →
      Action.Keeps (fun w => w.tree.Spares (p.worked database.commands) tree) (p.process job) := by
    intro job hJob
    refine keeps_process (fun w event hStart => hStart) fun hAdmitted => ?_
    refine unitInvariant_spared hTools (hAnchored _ hJob) fun place hPlace => ?_
    exact List.mem_flatMap.mpr ⟨job.command, List.mem_filter.mpr ⟨hJob, hAdmitted⟩, hPlace⟩
  exact (keeps_runFrom hUnits _ _ _ ⟨tree, state, []⟩ ⟨hFree, .refl _ _⟩).agree

/-- In a tree without links, a run leaves the source of a unit that is not admitted as it was,
whether it succeeds or not, if no temporary file of an admitted unit has its place. All commands are
to name their sources from the root on, so that the list and the tools mean the same files as the
pipeline. -/
theorem run_spares_skipped (p : Pipeline σ) (database : CompileDatabase) (tree : FileTree)
    (state : σ) (c : CompileCommand) (hFree : tree.LinkFree) (hTools : p.WritesOutputOnly)
    (hAnchored : ∀ other ∈ database.commands, other.Anchored) (hCommand : c ∈ database.commands)
    (hSkipped : p.allowlist.admits c.sourcePath = false)
    (hApart : ∀ other ∈ database.commands, p.allowlist.admits other.sourcePath = true →
      p.site.place c.sourcePath ∉ Artifacts.places p.site other) :
    (p.run database ⟨tree, state, []⟩).2.tree.get? (p.site.place c.sourcePath) =
      tree.get? (p.site.place c.sourcePath) := by
  refine p.run_agreeBeside database tree state hFree hTools hAnchored _ fun hWorked => ?_
  obtain ⟨other, hOther, hPlace⟩ := List.mem_flatMap.mp hWorked
  obtain ⟨hMem, hAdmitted⟩ := List.mem_filter.mp hOther
  rcases List.mem_cons.mp hPlace with hSame | hArtifact
  · have hSource := CompileCommand.sourcePath_eq_of_place
      (c.isAbsolute_sourcePath.mpr (hAnchored c hCommand).1)
      (other.isAbsolute_sourcePath.mpr (hAnchored other hMem).1) hSame
    rw [hSource, hAdmitted] at hSkipped
    cases hSkipped
  · exact hApart other hMem hAdmitted hArtifact

/-- Obedient programs change the file of their output, or nothing. -/
theorem obedient_cases (settings : PipelineSettings) (site : Site) (make : ToolFunction)
    (i : Invocation) (found : FileTree) {output : Path}
    (hOutput : settings.output? i = some output) :
    (obedient settings site make () i found).2.2 = found ∨ ∃ spot bytes,
      (⟨site, found⟩ : FileSystem).writable output = .ok spot ∧
        (obedient settings site make () i found).2.2 =
          found.put spot.place (.file bytes false) := by
  unfold obedient
  simp only [hOutput, bind, Option.bind_some]
  cases settings.inputs? i with
  | none => exact Or.inl rfl
  | some inputs =>
      simp only [Option.bind_some]
      cases inputs.mapM (⟨site, found⟩ : FileSystem).content? with
      | none => exact Or.inl rfl
      | some contents =>
          cases (⟨site, found⟩ : FileSystem).writable output with
          | error cause => exact Or.inl rfl
          | ok spot =>
              cases hMade : make i contents with
              | none => exact Or.inl (by simp [Except.toOption, hMade])
              | some bytes => exact Or.inr ⟨spot, bytes, rfl, by simp [Except.toOption, hMade]⟩

/-- The tools can be such that they write nothing else, whatever they write. -/
theorem writesOutputOnly_obedient {p : Pipeline Unit} {make : ToolFunction}
    (hRunner : p.runner = obedient p.settings p.site make) : p.WritesOutputOnly := by
  intro state i found output hOutput _ hFree
  rw [hRunner]
  rcases obedient_cases p.settings p.site make i found hOutput with
    hSame | ⟨spot, bytes, hSpot, hPut⟩
  · rw [hSame]
    exact ⟨hFree, .refl _ _⟩
  · have hPlace : spot.place = p.site.place output :=
      FileSystem.place_of_locate hFree (FileSystem.locate_of_writable hSpot).1
    have hBelow : spot.place ≠ [] := FileSystem.place_ne_nil_of_writable hSpot
    rw [hPut]
    exact ⟨hFree.put_file hBelow _ _, .put (by simp [hPlace]) hBelow _ _⟩

/-- A pipeline that is restricted to one source. -/
def selective (runner : Runner Unit) : Pipeline Unit :=
  { sample runner with allowlist := ⟨[⟨"/work/a.c"⟩]⟩ }

end Pipeline

/-- The commands of a project with a second source beside the one to which a run is restricted. -/
def CompileDatabase.pair (other : String) : CompileDatabase :=
  ⟨[(Job.sample other).command, (Job.sample "a.c").command]⟩

/-- The tree of that project. -/
def FileTree.pair (other : String) : FileTree :=
  ⟨(["work", other], .file [0x42] false) :: (FileTree.sample "a.c").entries⟩

theorem FileTree.linkFree_pair (other : String) : (FileTree.pair other).LinkFree :=
  linkFree_of_entries fun place target => by simp [FileTree.pair, FileTree.sample]

namespace Pipeline

/-- That pipeline with tools that always write the same. -/
def stamping : Pipeline Unit := selective (obedient .standard .sample fun _ _ => some [0x43])

theorem run_spares_skipped_stamping :
    (FileTree.pair "b.c").LinkFree ∧ stamping.WritesOutputOnly ∧
    (∀ other ∈ (CompileDatabase.pair "b.c").commands, other.Anchored) ∧
    (Job.sample "b.c").command ∈ (CompileDatabase.pair "b.c").commands ∧
    stamping.allowlist.admits (Job.sample "b.c").command.sourcePath = false ∧
    (∀ other ∈ (CompileDatabase.pair "b.c").commands,
      stamping.allowlist.admits other.sourcePath = true →
        stamping.site.place (Job.sample "b.c").command.sourcePath ∉
          Artifacts.places stamping.site other) ∧
    (stamping.run (.pair "b.c") ⟨.pair "b.c", (), []⟩).2.tree.get?
        (stamping.site.place (Job.sample "b.c").command.sourcePath) =
      (FileTree.pair "b.c").get?
        (stamping.site.place (Job.sample "b.c").command.sourcePath) := by
  have hTools : stamping.WritesOutputOnly := writesOutputOnly_obedient rfl
  have hAnchored : ∀ other ∈ (CompileDatabase.pair "b.c").commands, other.Anchored := by
    decide +kernel
  have hSkipped : stamping.allowlist.admits (Job.sample "b.c").command.sourcePath = false := by
    decide +kernel
  have hApart : ∀ other ∈ (CompileDatabase.pair "b.c").commands,
      stamping.allowlist.admits other.sourcePath = true →
        stamping.site.place (Job.sample "b.c").command.sourcePath ∉
          Artifacts.places stamping.site other := by decide +kernel
  have hCommand : (Job.sample "b.c").command ∈ (CompileDatabase.pair "b.c").commands :=
    List.mem_cons_self
  exact ⟨FileTree.linkFree_pair _, hTools, hAnchored, hCommand, hSkipped, hApart,
    run_spares_skipped stamping (.pair "b.c") (.pair "b.c") () _ (FileTree.linkFree_pair _) hTools
      hAnchored hCommand hSkipped hApart⟩

/-- That pipeline with tools that do nothing and fail. -/
def idle : Pipeline Unit := selective refusing

theorem writesOutputOnly_idle : idle.WritesOutputOnly :=
  fun _ _ _ _ _ _ hFree => ⟨hFree, .refl _ _⟩

/-- A second source whose name is that of a temporary file of the first one. -/
theorem sourcePath_eq_annotated : (Job.sample "a__hookpass_org__.c").command.sourcePath =
    (Artifacts.ofCommand (Job.sample "a.c").command).annotated := by decide +kernel

/-- Such a source is cleared away although it is skipped and no tool touches it. -/
theorem run_clears_skipped :
    (FileTree.pair "a__hookpass_org__.c").LinkFree ∧ idle.WritesOutputOnly ∧
    (∀ c ∈ (CompileDatabase.pair "a__hookpass_org__.c").commands, c.Anchored) ∧
    idle.allowlist.admits (Job.sample "a__hookpass_org__.c").command.sourcePath = false ∧
    (idle.run (.pair "a__hookpass_org__.c") ⟨.pair "a__hookpass_org__.c", (), []⟩).2.tree.get?
        (idle.site.place (Job.sample "a__hookpass_org__.c").command.sourcePath) ≠
      (FileTree.pair "a__hookpass_org__.c").get?
        (idle.site.place (Job.sample "a__hookpass_org__.c").command.sourcePath) := by
  have hAnchored : ∀ c ∈ (CompileDatabase.pair "a__hookpass_org__.c").commands, c.Anchored := by
    decide +kernel
  have hPlace : idle.site.place (Job.sample "a__hookpass_org__.c").command.sourcePath =
      ["work", "a__hookpass_org__.c"] := by decide +kernel
  have hBefore : (FileTree.pair "a__hookpass_org__.c").get? ["work", "a__hookpass_org__.c"] =
      some (.file [0x42] false) := by decide +kernel
  have hBeside := idle.run_agreeBeside (.pair "a__hookpass_org__.c")
    (.pair "a__hookpass_org__.c") () (FileTree.linkFree_pair _) writesOutputOnly_idle hAnchored
  -- The second unit is cleared before its first call, and again when this call has failed.
  have hTree : (idle.run (.pair "a__hookpass_org__.c")
      ⟨.pair "a__hookpass_org__.c", (), []⟩).2.tree =
        idle.clear (Job.sample "a.c").command
          (idle.clear (Job.sample "a.c").command (.pair "a__hookpass_org__.c")) := rfl
  rw [hTree] at hBeside
  refine ⟨FileTree.linkFree_pair _, writesOutputOnly_idle, hAnchored, by decide +kernel, ?_⟩
  rw [hTree, hPlace, hBefore]
  generalize hStart : idle.clear (Job.sample "a.c").command (.pair "a__hookpass_org__.c") = start
    at hBeside
  intro hKept
  obtain ⟨hNoFile, -, -⟩ := Artifacts.noFile_clear (Job.sample "a.c").command .sample start
  have hWork : (idle.clear (Job.sample "a.c").command start).get? ["work"] = some .directory :=
    (hBeside ["work"] (by decide +kernel)).trans rfl
  have hReaches := FileSystem.reaches_work (s := "a__hookpass_org__.c")
    ⟨by decide, by decide, by decide, by decide⟩ (by decide) (by decide) hWork
  have hFound := FileSystem.entry?_eq_some_iff.mpr
    ⟨_, hReaches.locate_of_entry .target hKept (by simp)⟩
  rw [sourcePath_eq_annotated] at hFound
  cases hNoFile _ hFound

end Pipeline

end CallbackWeave

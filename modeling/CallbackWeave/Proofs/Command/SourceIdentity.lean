import CallbackWeave.Proofs.Command.SourceToken
import CallbackWeave.Proofs.FileTree.Turning

/-!
What an argument that is taken for the source leads to. The path of an argument is folded together
with the directory of its command before it is compared with the source path. A system that resolves
the path as it was recorded comes to the same file, if the path ends in its name and turns back at
directories only. If it turns back at a link, a file that has no more than its name in common with
the source may be taken for it.
-/

namespace CallbackWeave

/-- A path leads where it leads when it is folded: it ends in its name, and each `..` in it turns
back at a directory. -/
structure FileSystem.Foldable (fs : FileSystem) (p : Path) : Prop where
  endsInName : ∃ above name, p.steps = above ++ [.into name]
  turns : fs.Turns p.inner

namespace CommandView

variable {c : CompileCommand} {view : CommandView} {fs : FileSystem}

/-- An argument is taken for the source exactly if it has the name of the source and leads to it. -/
theorem namesSource_iff_leads (hView : view.command = c)
    (hDirectory : c.directory.isAbsolute = true) {token : String}
    (hFoldable : (⟨token⟩ : Path).fileName? = c.sourcePath.fileName? →
      fs.Foldable (c.directory.join ⟨token⟩)) :
    view.namesSource fs (.positional token) = true ↔
      (⟨token⟩ : Path).fileName? = c.sourcePath.fileName? ∧
        c.LeadsToSource fs (c.directory.join ⟨token⟩) := by
  have hAbsolute : (c.directory.join ⟨token⟩).isAbsolute = true :=
    Path.isAbsolute_join_iff.mpr (Or.inl hDirectory)
  have hLeads : (⟨token⟩ : Path).fileName? = c.sourcePath.fileName? →
      (c.LeadsToSource fs (c.directory.resolveIn ⟨token⟩) ↔
        c.LeadsToSource fs (c.directory.join ⟨token⟩)) := by
    intro hName
    obtain ⟨⟨above, name, hSteps⟩, hTurns⟩ := hFoldable hName
    have hSame := FileSystem.canonical?_normalize hAbsolute hTurns hSteps
    rw [Path.normalize, ← Path.resolveIn_eq] at hSame
    rw [CompileCommand.LeadsToSource, CompileCommand.LeadsToSource, hSame]
  rw [namesSource_iff hView]
  constructor
  · rintro ⟨own, hOwn, hName, hPlace⟩
    obtain rfl : token = own := by simpa using hOwn
    exact ⟨hName, (hLeads hName).mp hPlace⟩
  · rintro ⟨hName, hPlace⟩
    exact ⟨token, rfl, hName, (hLeads hName).mpr hPlace⟩

/-- What the view for the preprocessor leaves out beside outputs and compilations names the
source. -/
theorem count_of_compilerOnly (hView : ofCommand c = .ok view) {tokens : List String}
    (hTokens : view.compilerOnly fs = .ok tokens) {token : String}
    (hOther : view.namesSource fs (.positional token) = false) :
    (Argument.group (tokens.drop 1)).count (.positional token) =
      view.arguments.count (.positional token) := by
  obtain ⟨before, source, after, hSplit, hSource, -, -, hGroup⟩ :=
    (reduces_of_compilerOnly hView hTokens).tokens_eq
  have hCommand := command_of_ofCommand hView
  have hApart : Argument.positional source ≠ .positional token := by
    intro hSame
    rw [hSame, ← namesSource_iff hCommand, hOther] at hSource
    cases hSource
  rw [hGroup, List.count_filter (by simp), arguments_of_ofCommand hView, hSplit,
    List.count_append, List.count_append, List.count_cons_of_ne hApart]

/-- In a command with an absolute directory, the arguments that are counted as its source are those
that have its name and lead to it, and no other one is left out for having its name, if the paths of
those with its name lead where they lead when they are folded. -/
theorem sources_lead (c : CompileCommand) (fs : FileSystem)
    (hDirectory : c.directory.isAbsolute = true) {view : CommandView}
    (hView : ofCommand c = .ok view)
    (hFoldable : ∀ token, .positional token ∈ view.arguments →
      (⟨token⟩ : Path).fileName? = c.sourcePath.fileName? →
        fs.Foldable (c.directory.join ⟨token⟩)) :
    (∀ token, .positional token ∈ view.arguments →
      (view.namesSource fs (.positional token) = true ↔
        (⟨token⟩ : Path).fileName? = c.sourcePath.fileName? ∧
          c.LeadsToSource fs (c.directory.join ⟨token⟩))) ∧
    ∀ tokens, view.compilerOnly fs = .ok tokens → ∀ token, .positional token ∈ view.arguments →
      ¬ c.LeadsToSource fs (c.directory.join ⟨token⟩) →
        (Argument.group (tokens.drop 1)).count (.positional token) =
          view.arguments.count (.positional token) := by
  have hCounted : ∀ token, .positional token ∈ view.arguments →
      (view.namesSource fs (.positional token) = true ↔
        (⟨token⟩ : Path).fileName? = c.sourcePath.fileName? ∧
          c.LeadsToSource fs (c.directory.join ⟨token⟩)) := fun token hMem =>
    namesSource_iff_leads (command_of_ofCommand hView) hDirectory (hFoldable token hMem)
  refine ⟨hCounted, fun tokens hTokens token hMem hElsewhere => ?_⟩
  refine count_of_compilerOnly hView hTokens ?_
  rw [← Bool.not_eq_true, hCounted token hMem]
  exact fun hSource => hElsewhere hSource.2

/-- A project with two sources of one name and a link to a directory of the other one. -/
def crossing : FileSystem where
  workingDirectory := ["work"]
  devices := []
  tree := ⟨[(["work"], .directory), (["work", "a.c"], .file [0x41] false),
    (["work", "other"], .directory), (["work", "other", "a.c"], .file [0x42] false),
    (["work", "other", "sub"], .directory), (["work", "l"], .link ⟨"other/sub"⟩)]⟩

theorem canonical?_crossing : crossing.canonical? ⟨"/work/a.c"⟩ = some ["work", "a.c"] := by
  have hSteps : (⟨"/work/a.c"⟩ : Path).steps = [.into "work", .into "a.c"] := by decide +kernel
  have hAbsolute : (⟨"/work/a.c"⟩ : Path).isAbsolute = true := by decide +kernel
  simp [FileSystem.canonical?, FileSystem.resolve, crossing, FileTree.walk, FileTree.get?,
    List.lookup_cons, Path.nameLimit, hSteps, hAbsolute]
  rfl

/-- Behind the link a system is in the other directory. -/
theorem canonical?_crossing_link :
    crossing.canonical? ⟨"/work/l/../a.c"⟩ = some ["work", "other", "a.c"] := by
  have hSteps : (⟨"/work/l/../a.c"⟩ : Path).steps =
      [.into "work", .into "l", .up, .into "a.c"] := by decide +kernel
  have hTarget : (⟨"other/sub"⟩ : Path).steps = [.into "other", .into "sub"] := by decide +kernel
  have hAbsolute : (⟨"/work/l/../a.c"⟩ : Path).isAbsolute = true := by decide +kernel
  have hRelative : (⟨"other/sub"⟩ : Path).isAbsolute = false := by decide +kernel
  simp [FileSystem.canonical?, FileSystem.resolve, crossing, FileTree.walk, FileTree.get?,
    List.lookup_cons, FileTree.linkLimit, Path.nameLimit, hSteps, hTarget, hAbsolute, hRelative]
  rfl

/-- A command of that project with a source token that turns back at a directory, and beside it the
other source. -/
def turning : CompileCommand :=
  ⟨⟨"/work"⟩, ⟨"a.c"⟩, none, some ["cc", "-c", "other/../a.c", "other/a.c"]⟩

theorem foldable_turning : crossing.Foldable ⟨"/work/other/../a.c"⟩ := by
  have hSteps : (⟨"/work/other/../a.c"⟩ : Path).steps =
      [.into "work", .into "other", .up] ++ [.into "a.c"] := by decide +kernel
  have hInner : (⟨"/work/other/../a.c"⟩ : Path).inner =
      [.name "work", .name "other", .up, .name "a.c"] := by decide +kernel
  refine ⟨⟨_, _, hSteps⟩, fun front rest hSplit _ => ⟨["work", "other"], ?_⟩⟩
  rw [hInner] at hSplit
  obtain ⟨rfl, -⟩ : front = [.name "work", .name "other"] ∧ rest = [.name "a.c"] := by
    simpa [List.cons_eq_append_iff] using hSplit
  have hBack : (NormalPath.fromRoot [.name "work", .name "other"]).toPath = ⟨"/work/other"⟩ := by
    decide +kernel
  have hBackSteps : (⟨"/work/other"⟩ : Path).steps = [.into "work", .into "other"] := by
    decide +kernel
  have hAbsolute : (⟨"/work/other"⟩ : Path).isAbsolute = true := by decide +kernel
  rw [hBack]
  simp [FileSystem.resolve, crossing, FileTree.walk, FileTree.get?, List.lookup_cons,
    Path.nameLimit, hBackSteps, hAbsolute]
  decide

theorem foldable_other : crossing.Foldable ⟨"/work/other/a.c"⟩ := by
  have hSteps : (⟨"/work/other/a.c"⟩ : Path).steps =
      [.into "work", .into "other"] ++ [.into "a.c"] := by decide +kernel
  have hInner : (⟨"/work/other/a.c"⟩ : Path).inner =
      [.name "work", .name "other", .name "a.c"] := by decide +kernel
  refine ⟨⟨_, _, hSteps⟩, fun front rest hSplit => ?_⟩
  simp [hInner, List.cons_eq_append_iff] at hSplit

/-- The command of the turning token, taken apart. -/
def turningView : CommandView :=
  ⟨turning, "cc", [.compileOnly, .positional "other/../a.c", .positional "other/a.c"]⟩

theorem ofCommand_turning : ofCommand turning = .ok turningView := by
  have hGroup : Argument.group ["-c", "other/../a.c", "other/a.c"] = turningView.arguments := by
    decide +kernel
  have hTokens : turning.tokens? = some ("cc" :: ["-c", "other/../a.c", "other/a.c"]) := rfl
  rw [ofCommand_of_tokens? hTokens, hGroup]
  rfl

theorem sources_lead_turning :
    turning.directory.isAbsolute = true ∧ ofCommand turning = .ok turningView ∧
    (∀ token, .positional token ∈ turningView.arguments →
      (⟨token⟩ : Path).fileName? = turning.sourcePath.fileName? →
        crossing.Foldable (turning.directory.join ⟨token⟩)) ∧
    (∀ token, .positional token ∈ turningView.arguments →
      (turningView.namesSource crossing (.positional token) = true ↔
        (⟨token⟩ : Path).fileName? = turning.sourcePath.fileName? ∧
          turning.LeadsToSource crossing (turning.directory.join ⟨token⟩))) ∧
    ∀ tokens, turningView.compilerOnly crossing = .ok tokens →
      ∀ token, .positional token ∈ turningView.arguments →
        ¬ turning.LeadsToSource crossing (turning.directory.join ⟨token⟩) →
          (Argument.group (tokens.drop 1)).count (.positional token) =
            turningView.arguments.count (.positional token) := by
  have hDirectory : turning.directory.isAbsolute = true := by decide +kernel
  have hJoin : turning.directory.join ⟨"other/../a.c"⟩ = ⟨"/work/other/../a.c"⟩ := by
    decide +kernel
  have hOtherJoin : turning.directory.join ⟨"other/a.c"⟩ = ⟨"/work/other/a.c"⟩ := by
    decide +kernel
  have hFoldable : ∀ token, .positional token ∈ turningView.arguments →
      (⟨token⟩ : Path).fileName? = turning.sourcePath.fileName? →
        crossing.Foldable (turning.directory.join ⟨token⟩) := by
    intro token hMem _
    rcases (by simpa [turningView] using hMem : token = "other/../a.c" ∨ token = "other/a.c") with
      rfl | rfl
    · rw [hJoin]
      exact foldable_turning
    · rw [hOtherJoin]
      exact foldable_other
  exact ⟨hDirectory, ofCommand_turning, hFoldable,
    sources_lead turning crossing hDirectory ofCommand_turning hFoldable⟩

/-- A command of that project whose only token turns back at the link. -/
def crossed : CompileCommand :=
  ⟨⟨"/work"⟩, ⟨"a.c"⟩, none, some ["cc", "-c", "l/../a.c"]⟩

/-- That command, taken apart. -/
def crossedView : CommandView := ⟨crossed, "cc", [.compileOnly, .positional "l/../a.c"]⟩

/-- That token is taken for the source and left out, although a system that resolves it comes to
the other file. -/
theorem source_taken_across_link :
    crossed.directory.isAbsolute = true ∧ ofCommand crossed = .ok crossedView ∧
    crossedView.compilerOnly crossing = .ok ["cc"] ∧
    crossing.canonical? crossed.sourcePath = some ["work", "a.c"] ∧
    crossing.canonical? (crossed.directory.join ⟨"l/../a.c"⟩) = some ["work", "other", "a.c"] ∧
    ¬ ∀ token, .positional token ∈ crossedView.arguments →
      (crossedView.namesSource crossing (.positional token) = true ↔
        (⟨token⟩ : Path).fileName? = crossed.sourcePath.fileName? ∧
          crossed.LeadsToSource crossing (crossed.directory.join ⟨token⟩)) := by
  have hDirectory : crossed.directory.isAbsolute = true := by decide +kernel
  have hSourcePath : crossed.sourcePath = ⟨"/work/a.c"⟩ := by decide +kernel
  have hSeen : crossed.directory.resolveIn ⟨"l/../a.c"⟩ = ⟨"/work/a.c"⟩ := by decide +kernel
  have hJoin : crossed.directory.join ⟨"l/../a.c"⟩ = ⟨"/work/l/../a.c"⟩ := by decide +kernel
  have hName : (⟨"l/../a.c"⟩ : Path).fileName? = crossed.sourcePath.fileName? := by decide +kernel
  have hTokens : crossed.tokens? = some ("cc" :: ["-c", "l/../a.c"]) := rfl
  have hGroup : Argument.group ["-c", "l/../a.c"] = crossedView.arguments := by decide +kernel
  have hView : ofCommand crossed = .ok crossedView := by
    rw [ofCommand_of_tokens? hTokens, hGroup]
    rfl
  have hFound : crossing.canonical? crossed.sourcePath = some ["work", "a.c"] := by
    rw [hSourcePath]
    exact canonical?_crossing
  have hLed : crossing.canonical? (crossed.directory.join ⟨"l/../a.c"⟩) =
      some ["work", "other", "a.c"] := by
    rw [hJoin]
    exact canonical?_crossing_link
  have hTaken : crossedView.namesSource crossing (.positional "l/../a.c") = true := by
    refine (namesSource_iff rfl _).mpr ⟨"l/../a.c", rfl, hName, ["work", "a.c"], ?_, hFound⟩
    change crossing.canonical? (crossed.directory.resolveIn ⟨"l/../a.c"⟩) = some ["work", "a.c"]
    rw [hSeen]
    exact canonical?_crossing
  have hOther : crossedView.namesSource crossing .compileOnly = false := rfl
  have hArguments : crossedView.arguments = [.compileOnly, .positional "l/../a.c"] := rfl
  refine ⟨hDirectory, hView, ?_, hFound, hLed, fun hAll => ?_⟩
  · simp [compilerOnly, candidates, forPreprocessor, assemble, hArguments, hTaken, hOther]
    rfl
  · obtain ⟨-, place, hPlace, hSource⟩ := (hAll "l/../a.c" (by simp [crossedView])).mp hTaken
    rw [hLed] at hPlace
    rw [hFound] at hSource
    obtain rfl := Option.some.inj hPlace
    simp at hSource

end CommandView

end CallbackWeave

import CallbackWeave.CommandView
import CallbackWeave.Proofs.Pipeline.UnitFiles
import Mathlib.Logic.Function.Basic

/-!
What the files of a unit hold. In the trees that a unit passes through, each of its four files is
there with some content or is not there at all, and everything beside them is as it was. The
operations of the pipeline change the content of one of them.
-/

namespace CallbackWeave

/-- What stands at a location is a file with some content, or nothing. -/
def FileTree.Holds (t : FileTree) (place : Location) : Option Bytes → Prop
  | none => t.get? place = none
  | some content => ∃ executable, t.get? place = some (.file content executable)

/-- What the files of a unit hold, in a tree that is as it was beside them. -/
structure Scene (site : Site) (c : CompileCommand) (before : FileTree)
    (contents : UnitFile → Option Bytes) (t : FileTree) : Prop where
  file : ∀ f : UnitFile, t.Holds (site.place (f.path c)) (contents f)
  beside : ∀ place, (∀ f : UnitFile, place ≠ site.place (f.path c)) →
    t.get? place = before.get? place

namespace FileTree.Holds

variable {t : FileTree} {place : Location} {content : Option Bytes}

theorem not_link (h : t.Holds place content) (target : Path) :
    t.get? place ≠ some (.link target) := by
  cases content with
  | none => simp [show t.get? place = none from h]
  | some bytes =>
      obtain ⟨executable, hFile⟩ := h
      simp [hFile]

theorem not_directory (h : t.Holds place content) : t.get? place ≠ some .directory := by
  cases content with
  | none => simp [show t.get? place = none from h]
  | some bytes =>
      obtain ⟨executable, hFile⟩ := h
      simp [hFile]

theorem isSome_eq (h : t.Holds place content) : (t.get? place).isSome = content.isSome := by
  cases content with
  | none => simp [show t.get? place = none from h]
  | some bytes =>
      obtain ⟨executable, hFile⟩ := h
      simp [hFile]

end FileTree.Holds

namespace Scene

variable {site : Site} {c : CompileCommand} {sourceName : String} {before t : FileTree}
  {contents : UnitFile → Option Bytes}

/-- Whatever the files of a unit hold, they can be worked on. -/
theorem workable (h : Scene site c before contents t)
    (hBefore : Workable site c sourceName before) : Workable site c sourceName t := by
  have hKeeps : before.KeepsWays t := by
    constructor
    · intro place hDirectory
      rw [h.beside place fun f hPlace => hBefore.plain f (hPlace ▸ hDirectory), hDirectory]
    · exact fun place target hLink => absurd hLink (hBefore.linkFree place target)
  refine ⟨hBefore.name, fun place target hLink => ?_, fun f => (hBefore.reaches f).mono hKeeps,
    fun f => (h.file f).not_directory, hBefore.noDevice⟩
  by_cases hPlace : ∀ f : UnitFile, place ≠ site.place (f.path c)
  · exact hBefore.linkFree place target (h.beside place hPlace ▸ hLink)
  · obtain ⟨f, rfl⟩ : ∃ f : UnitFile, place = site.place (f.path c) := by simpa using hPlace
    exact (h.file f).not_link target hLink

/-- One of the files comes to hold something else, and nothing beside it changes. -/
theorem replace (h : Scene site c before contents t) (hName : c.file.fileName? = some sourceName)
    {f : UnitFile} {content : Option Bytes} {after : FileTree}
    (hFile : after.Holds (site.place (f.path c)) content)
    (hBeside : ∀ place ≠ site.place (f.path c), after.get? place = t.get? place) :
    Scene site c before (Function.update contents f content) after := by
  constructor
  · intro g
    by_cases hSame : g = f
    · rw [hSame, Function.update_self]
      exact hFile
    · rw [Function.update_of_ne hSame]
      have hPlace : site.place (g.path c) ≠ site.place (f.path c) :=
        fun hPlaces => hSame (UnitFile.place_injective hName site hPlaces)
      have hKept := h.file g
      unfold FileTree.Holds at hKept ⊢
      rwa [hBeside _ hPlace]
  · intro place hPlace
    rw [hBeside place (hPlace f), h.beside place hPlace]

theorem place_ne_nil (hName : c.file.fileName? = some sourceName) (f : UnitFile) :
    site.place (f.path c) ≠ [] := by
  rw [UnitFile.place_path hName]
  simp

/-- Clearing a file of a unit leaves nothing there. -/
theorem clearPath (h : Scene site c before contents t)
    (hBefore : Workable site c sourceName before) (f : UnitFile) :
    Scene site c before (Function.update contents f none)
      (Artifacts.clearPath ⟨site, t⟩ (f.path c)) := by
  have hWorkable := h.workable hBefore
  have hErased : Scene site c before (Function.update contents f none)
      (t.erase (site.place (f.path c))) := by
    refine h.replace hBefore.name ?_ fun place hPlace => ?_
    · simp [FileTree.Holds, FileTree.get?_erase _ _ _ (place_ne_nil hBefore.name f)]
    · rw [FileTree.get?_erase _ _ _ (place_ne_nil hBefore.name f), if_neg hPlace]
  have hPlace := UnitFile.place_path hBefore.name site f
  have hFile := h.file f
  unfold Artifacts.clearPath
  rw [FileSystem.holds, hWorkable.entry?_eq, hFile.isSome_eq, (hWorkable.reaches f).remove_eq,
    ← hPlace]
  cases hContent : contents f with
  | none =>
      rw [Function.update_eq_self_iff.mpr hContent.symm]
      exact h
  | some bytes =>
      rw [hContent] at hFile
      obtain ⟨executable, hEntry⟩ := hFile
      simpa [hEntry] using hErased

/-- What the files of a unit hold once its temporary files are cleared. -/
def cleared (contents : UnitFile → Option Bytes) : UnitFile → Option Bytes
  | .source => contents .source
  | _ => none

theorem clear (h : Scene site c before contents t)
    (hBefore : Workable site c sourceName before) :
    Scene site c before (cleared contents) ((Artifacts.ofCommand c).clear ⟨site, t⟩) := by
  have hAll := ((h.clearPath hBefore .annotated).clearPath hBefore .expanded).clearPath hBefore
    .merged
  have hSame : cleared contents = Function.update (Function.update (Function.update contents
      .annotated none) .expanded none) .merged none := by
    funext f
    cases f <;> rfl
  rw [hSame]
  simpa only [Artifacts.clear, Artifacts.paths, List.foldl_cons, List.foldl_nil, UnitFile.path]
    using hAll

/-- The source can be copied to the place of the merged file, if nothing stands there. -/
theorem copy (h : Scene site c before contents t) (hBefore : Workable site c sourceName before)
    {content : Bytes} (hSource : contents .source = some content)
    (hMerged : contents .merged = none) :
    ∃ after, (⟨site, t⟩ : FileSystem).copy c.sourcePath (Artifacts.ofCommand c).merged = .ok after ∧
      Scene site c before (Function.update contents .merged (some content)) after := by
  have hWorkable := h.workable hBefore
  obtain ⟨executable, hSourceEntry⟩ : t.Holds (site.place c.sourcePath) (some content) :=
    hSource ▸ h.file .source
  have hMergedEntry : t.get? (site.place (Artifacts.ofCommand c).merged) = none := by
    have hHolds := h.file .merged
    rwa [hMerged] at hHolds
  have hOther : site.place (UnitFile.merged.path c) ≠ site.place (UnitFile.source.path c) :=
    (UnitFile.place_injective hBefore.name site).ne (by decide)
  have hLocate := hWorkable.locate_eq .target .source
  have hWritable := hWorkable.writable_eq .merged
  simp only [UnitFile.path] at hLocate hWritable hOther
  refine ⟨t.put (site.place (Artifacts.ofCommand c).merged) (.file content executable), ?_, ?_⟩
  · simp [FileSystem.copy, hLocate, hWritable, hSourceEntry, hMergedEntry, hBefore.noDevice, hOther,
      FileSystem.fill, bind, Except.bind]
  · refine h.replace hBefore.name (f := .merged) ⟨executable, ?_⟩ fun place hPlace => ?_
    · exact (FileTree.get?_put _ _ _ _ (place_ne_nil hBefore.name .merged)).trans (if_pos rfl)
    · exact (FileTree.get?_put _ _ _ _ (place_ne_nil hBefore.name .merged)).trans (if_neg hPlace)

section

variable (h : Scene site c before contents t) (hBefore : Workable site c sourceName before)
  (hSource : (before.get? (site.place c.sourcePath)).isSome = (contents .source).isSome)

include h hBefore hSource

/-- Whether a path with the name of the source leads anywhere, and where, does not depend on the
temporary files. -/
theorem canonical?_eq {p : Path} {above : List Step}
    (hSteps : p.steps = above ++ [.into sourceName]) :
    (⟨site, t⟩ : FileSystem).canonical? p = (⟨site, before⟩ : FileSystem).canonical? p := by
  have hWorkable := h.workable hBefore
  have hBeside : ∀ place, (∃ f : UnitFile, place = site.place (f.path c)) ∨
      t.get? place = before.get? place := by
    intro place
    by_cases hPlace : ∃ f : UnitFile, place = site.place (f.path c)
    · exact Or.inl hPlace
    · exact Or.inr (h.beside place fun f hSame => hPlace ⟨f, hSame⟩)
  refine FileSystem.canonical?_congr hWorkable.linkFree hBefore.linkFree (fun place => ?_) hSteps
    fun directory => ?_
  · rcases hBeside place with ⟨f, rfl⟩ | hSame
    · exact ⟨fun hHere => absurd hHere (hWorkable.plain f),
        fun hHere => absurd hHere (hBefore.plain f)⟩
    · rw [hSame]
  · rcases hBeside (directory ++ [sourceName]) with ⟨f, hPlace⟩ | hSame
    · have hSpelled := hPlace.trans (UnitFile.place_path hBefore.name site f)
      have hName : sourceName = f.name c sourceName := by
        simpa using congrArg List.getLast? hSpelled
      obtain rfl : UnitFile.source = f := UnitFile.name_injective hBefore.name hName
      have hHolds := (h.file .source).isSome_eq
      rw [hPlace]
      exact hHolds.trans hSource.symm
    · rw [hSame]

/-- Which arguments name the source does not depend on the temporary files. -/
theorem namesSource_eq {view : CommandView} (hView : view.command = c) :
    view.namesSource ⟨site, t⟩ = view.namesSource ⟨site, before⟩ := by
  subst hView
  have hName := hBefore.name
  funext argument
  cases argument with
  | positional token =>
      simp only [CommandView.namesSource]
      by_cases hToken : (⟨token⟩ : Path).fileName? = view.command.sourcePath.fileName?
      · have hTokenName := hToken.trans (UnitFile.fileName?_sourcePath hName)
        have hTokenSteps := (Path.steps_resolveIn view.command.directory hTokenName).1
        simp only [FileSystem.sameFile, h.canonical?_eq hBefore hSource hTokenSteps,
          h.canonical?_eq hBefore hSource (UnitFile.steps_sourcePath hName).1]
      · simp [hToken]
  | _ => rfl

/-- What a preprocessor is told does not depend on the temporary files. -/
theorem compilerOnly_eq {view : CommandView} (hView : view.command = c) :
    view.compilerOnly ⟨site, t⟩ = view.compilerOnly ⟨site, before⟩ :=
  CommandView.compilerOnly_eq_of_namesSource_eq (h.namesSource_eq hBefore hSource hView)

end

end Scene

end CallbackWeave

import CallbackWeave.Proofs.Pipeline.Frame

/-!
The files of a unit: its source, and the temporary files beside it. They are four entries of one
directory under four names. If the source is a file of a tree without links, then each of them is
found in that directory, as long as its path is not too long, and stays to be found there whatever
the four come to hold.
-/

namespace CallbackWeave

namespace Path

/-- A joined path has no characters but those of its two parts, and separators. -/
theorem mem_text_of_join {base p : Path} (hRelative : p.isAbsolute = false) {x : Char}
    (hChar : x ≠ '/') (hMem : x ∈ (base.join p).text.toList) :
    x ∈ base.text.toList ∨ x ∈ p.text.toList := by
  rcases text_join base hRelative with ⟨hText, -⟩ | ⟨front, hText, hBase⟩
  · exact Or.inr (hText ▸ hMem)
  · rw [hText] at hMem
    rcases hBase with ⟨hBase, -⟩ | hBase <;> rw [hBase] <;> simp_all

end Path

/-- The files of a unit. -/
inductive UnitFile where
  | source
  | annotated
  | expanded
  | merged
deriving DecidableEq, Repr

namespace UnitFile

/-- The path of a file of a unit. -/
def path (c : CompileCommand) : UnitFile → Path
  | source => c.sourcePath
  | annotated => (Artifacts.ofCommand c).annotated
  | expanded => (Artifacts.ofCommand c).expanded
  | merged => (Artifacts.ofCommand c).merged

/-- The name of a file of a unit whose source has a given name. -/
def name (c : CompileCommand) (sourceName : String) : UnitFile → String
  | source => sourceName
  | annotated => Artifacts.fileName c "org"
  | expanded => Artifacts.fileName c "pp"
  | merged => Artifacts.fileName c "new"

/-- A file of a unit is its source, or it stands beside the source under a name with some tag. -/
theorem eq_source_or_exists_tag (c : CompileCommand) (sourceName : String) (f : UnitFile) :
    f = source ∨ ∃ tag : String,
      ('/' ∉ tag.toList ∧ '\x00' ∉ tag.toList ∧ 2 ≤ tag.toList.length) ∧
        f.path c = Artifacts.beside c tag ∧ f.name c sourceName = Artifacts.fileName c tag := by
  cases f with
  | source => exact Or.inl rfl
  | annotated => exact Or.inr ⟨"org", by decide, by rw [path, Artifacts.ofCommand_eq], rfl⟩
  | expanded => exact Or.inr ⟨"pp", by decide, by rw [path, Artifacts.ofCommand_eq], rfl⟩
  | merged => exact Or.inr ⟨"new", by decide, by rw [path, Artifacts.ofCommand_eq], rfl⟩

section

variable {c : CompileCommand} {sourceName : String} (hName : c.file.fileName? = some sourceName)

include hName

theorem steps_sourcePath :
    c.sourcePath.steps = (Artifacts.directory c).steps ++ [.into sourceName] ∧
      c.sourcePath.isAbsolute = (Artifacts.directory c).absolute := by
  unfold Artifacts.directory CompileCommand.sourcePath
  exact Path.steps_resolveIn c.directory hName

/-- Each file of a unit is resolved by the steps to their directory and then by its name. -/
theorem steps_path (f : UnitFile) :
    (f.path c).steps = (Artifacts.directory c).steps ++ [.into (f.name c sourceName)] ∧
      (f.path c).isAbsolute = (Artifacts.directory c).absolute := by
  rcases f.eq_source_or_exists_tag c sourceName with rfl | ⟨tag, ⟨hTag, -⟩, hPath, hOwn⟩
  · exact steps_sourcePath hName
  · rw [hPath, hOwn]
    exact Artifacts.steps_beside c hTag

/-- The files of a unit are entries of one directory, each under its own name. -/
theorem place_path (site : Site) (f : UnitFile) :
    site.place (f.path c) = Artifacts.home site c ++ [f.name c sourceName] := by
  obtain ⟨hSteps, hAbsolute⟩ := steps_path hName f
  unfold Artifacts.home
  simp only [Site.place, hSteps, hAbsolute, List.foldl_append, List.foldl_cons, List.foldl_nil,
    Step.follow]

/-- Folding the path of a source keeps the name at its end. -/
theorem fileName?_sourcePath : c.sourcePath.fileName? = some sourceName := by
  obtain ⟨above, hNames⟩ := Path.names_normal_join c.directory hName
  rw [CompileCommand.sourcePath, Path.resolveIn_eq]
  exact NormalPath.fileName?_toPath (c.directory.join c.file).normal_proper hNames

/-- How much longer the name of a temporary file is than that of the source, at the least. -/
theorem length_fileName (tag : String) :
    sourceName.toList.length + 13 + tag.toList.length ≤
      (Artifacts.fileName c tag).toList.length := by
  have hSplit := Path.length_splitName sourceName.toList
  have hStem : c.stem.toList = (Path.splitName sourceName.toList).1 := by
    simp [CompileCommand.stem, Path.stem?, hName]
  have hExtension : (Path.splitName sourceName.toList).2.elim 0 List.length ≤
      (c.sourcePath.extension?.getD "c").toList.length := by
    rw [Path.extension?, fileName?_sourcePath hName]
    cases hAfter : (Path.splitName sourceName.toList).2 <;> simp [hAfter]
  have hMark : "__hookpass_".toList.length = 11 := by decide
  have hPoint : "__.".toList.length = 3 := by decide
  simp only [Artifacts.toList_fileName, List.length_append, hStem, hMark, hPoint]
  omega

/-- The files of a unit have different names, even if the source is called like a temporary file. -/
theorem name_injective : Function.Injective (name c sourceName) := by
  have hSource : ∀ tag, sourceName ≠ Artifacts.fileName c tag := by
    intro tag hSame
    have hLength := length_fileName hName tag
    rw [← hSame] at hLength
    omega
  have hTags : ∀ {tag other}, tag ≠ other → Artifacts.fileName c tag ≠ Artifacts.fileName c other :=
    fun hOther hSame => hOther (Artifacts.fileName_injective c hSame)
  intro f g hSame
  cases f <;> cases g <;> simp only [name] at hSame
  case source.source => rfl
  case annotated.annotated => rfl
  case expanded.expanded => rfl
  case merged.merged => rfl
  case source.annotated | source.expanded | source.merged => exact absurd hSame (hSource _)
  case annotated.source | expanded.source | merged.source => exact absurd hSame.symm (hSource _)
  all_goals exact absurd hSame (hTags (by decide))

/-- The files of a unit stand at different locations. -/
theorem place_injective (site : Site) :
    Function.Injective fun f : UnitFile => site.place (f.path c) := by
  intro f g hSame
  simp only [place_path hName] at hSame
  exact name_injective hName (by simpa using hSame)

theorem mem_text_of_mem_parent {x : Char} (hChar : x ≠ '/')
    (hMem : x ∈ (c.sourcePath.parent?.getD ⟨""⟩).text.toList) : x ∈ c.sourcePath.text.toList := by
  have hProper := (c.directory.join c.file).normal_proper
  obtain ⟨above, hNames⟩ := Path.names_normal_join c.directory hName
  have hInner : (c.directory.join c.file).normal.inner ≠ [] := by simp [NormalPath.inner, hNames]
  rw [CompileCommand.sourcePath, Path.resolveIn_eq, NormalPath.parent?_toPath hProper hInner,
    Option.getD_some, Path.mem_text_ofComponents hChar] at hMem
  obtain ⟨component, hComponent, hText⟩ := hMem
  rw [CompileCommand.sourcePath, Path.resolveIn_eq, NormalPath.toPath,
    Path.mem_text_ofComponents hChar]
  exact ⟨component, (List.dropLast_sublist _).subset hComponent, hText⟩

theorem mem_text_of_mem_name {x : Char} (hChar : x ≠ '/') (hMem : x ∈ sourceName.toList) :
    x ∈ c.sourcePath.text.toList := by
  have hLast := Path.fileName?_eq_some_iff.mp (fileName?_sourcePath hName)
  have hComponent : Component.name sourceName ∈ (c.directory.join c.file).normal.components := by
    rw [← NormalPath.components_toPath (c.directory.join c.file).normal_proper,
      ← Path.resolveIn_eq, Path.components_eq]
    exact List.mem_append_right _ (List.mem_of_getLast? hLast)
  rw [CompileCommand.sourcePath, Path.resolveIn_eq, NormalPath.toPath,
    Path.mem_text_ofComponents hChar]
  exact ⟨_, hComponent, hMem⟩

/-- The name of a temporary file holds no NUL if that of the source holds none. -/
theorem nul_notMem_fileName (hSource : '\x00' ∉ sourceName.toList) {tag : String}
    (hTag : '\x00' ∉ tag.toList) : '\x00' ∉ (Artifacts.fileName c tag).toList := by
  have hStem : '\x00' ∉ c.stem.toList := by
    have hText : c.stem.toList = (Path.splitName sourceName.toList).1 := by
      simp [CompileCommand.stem, Path.stem?, hName]
    exact fun hMem => hSource (Path.mem_splitName.1 (hText ▸ hMem))
  have hExtension : '\x00' ∉ (c.sourcePath.extension?.getD "c").toList := by
    rw [Path.extension?, fileName?_sourcePath hName]
    cases hAfter : (Path.splitName sourceName.toList).2 with
    | none => simp [hAfter]
    | some after => simpa [hAfter] using mt (Path.mem_splitName.2 after hAfter) hSource
  simp [Artifacts.toList_fileName, hStem, hTag, hExtension]

/-- If a system takes the path of the source for one that holds no NUL, it takes the others so as
well. -/
theorem readable_path (hSource : '\x00' ∉ c.sourcePath.text.toList) (f : UnitFile) :
    '\x00' ∉ (f.path c).text.toList := by
  rcases f.eq_source_or_exists_tag c sourceName with rfl | ⟨tag, ⟨hTag, hNul, -⟩, hPath, -⟩
  · exact hSource
  · intro hMem
    rw [hPath] at hMem
    unfold Artifacts.beside at hMem
    have hRelative := Path.isAbsolute_of_entryName (Artifacts.entryName_fileName c hTag)
    rcases Path.mem_text_of_join hRelative (by decide) hMem with hParent | hFile
    · exact hSource (mem_text_of_mem_parent hName (by decide) hParent)
    · have hOwn := mt (mem_text_of_mem_name hName (by decide)) hSource
      exact nul_notMem_fileName hName hOwn hNul hFile

theorem fileName?_path (f : UnitFile) : (f.path c).fileName? = some (f.name c sourceName) := by
  rcases f.eq_source_or_exists_tag c sourceName with rfl | ⟨tag, ⟨hTag, -⟩, hPath, hOwn⟩
  · exact fileName?_sourcePath hName
  · rw [hPath, hOwn]
    unfold Artifacts.beside
    exact Path.fileName?_join_name _ (Artifacts.entryName_fileName c hTag)

end

/-- A file of a unit is its source or one of its temporary files. -/
theorem eq_source_or_mem_paths (c : CompileCommand) (f : UnitFile) :
    f = source ∨ f.path c ∈ (Artifacts.ofCommand c).paths := by
  cases f <;> simp [path, Artifacts.paths]

theorem mem_cons_paths (c : CompileCommand) (f : UnitFile) :
    f.path c ∈ c.sourcePath :: (Artifacts.ofCommand c).paths := by
  cases f <;> simp [path, Artifacts.paths]

/-- Every path that is cleared is that of a temporary file. -/
theorem exists_of_mem_paths {c : CompileCommand} {p : Path}
    (hPath : p ∈ (Artifacts.ofCommand c).paths) : ∃ f ≠ source, p = path c f := by
  simp only [Artifacts.paths, List.mem_cons, List.not_mem_nil, or_false] at hPath
  rcases hPath with rfl | rfl | rfl
  · exact ⟨annotated, by simp, rfl⟩
  · exact ⟨expanded, by simp, rfl⟩
  · exact ⟨merged, by simp, rfl⟩

end UnitFile

/-- The paths of temporary files and their names are no longer than an operation on files takes. -/
def Artifacts.WithinLimits (a : Artifacts) : Prop :=
  ∀ path ∈ a.paths, path.byteLength ≤ Path.lengthLimit ∧
    ∀ name, path.fileName? = some name → name.utf8ByteSize ≤ Path.nameLimit

/-- The files of a unit can be worked on in a tree: no link leads astray, their directory is found,
none of them is a directory itself, and the source is no device. -/
structure Workable (site : Site) (c : CompileCommand) (sourceName : String) (t : FileTree) :
    Prop where
  name : c.file.fileName? = some sourceName
  linkFree : t.LinkFree
  reaches : ∀ f : UnitFile, (⟨site, t⟩ : FileSystem).Reaches (f.path c) (Artifacts.home site c)
    (f.name c sourceName)
  plain : ∀ f : UnitFile, t.get? (site.place (f.path c)) ≠ some .directory
  noDevice : site.devices.lookup (site.place c.sourcePath) = none

namespace Workable

variable {site : Site} {c : CompileCommand} {sourceName : String} {t : FileTree}

/-- The source of a unit is the only one of its files that has to exist. -/
theorem of_source (hName : c.file.fileName? = some sourceName) (hFree : t.LinkFree)
    (hSource : (⟨site, t⟩ : FileSystem).isFile c.sourcePath = true)
    (hArtifacts : ∀ path ∈ (Artifacts.ofCommand c).paths,
      (⟨site, t⟩ : FileSystem).isDirectory path = false)
    (hLimits : (Artifacts.ofCommand c).WithinLimits) : Workable site c sourceName t := by
  obtain ⟨place, content, executable, hLocate, hDevice⟩ := FileSystem.exists_of_isFile hSource
  obtain ⟨hSteps, hAbsolute⟩ := UnitFile.steps_sourcePath hName
  obtain ⟨reached, hReaches⟩ := FileSystem.exists_reaches_of_locate hSteps hLocate
  have hPlace : reached ++ [sourceName] = Artifacts.home site c ++ [sourceName] :=
    (hReaches.place_eq hSteps fun other target hLink => absurd hLink (hFree other target)).trans
      (UnitFile.place_path hName site .source)
  obtain rfl : reached = Artifacts.home site c := by simpa using hPlace
  have hAll : ∀ f : UnitFile, (⟨site, t⟩ : FileSystem).Reaches (f.path c) (Artifacts.home site c)
      (f.name c sourceName) := by
    intro f
    rcases f.eq_source_or_mem_paths c with rfl | hMem
    · exact hReaches
    · obtain ⟨hShort, hNames⟩ := hLimits _ hMem
      obtain ⟨-, left, hWay⟩ := hReaches.exists_descend hSteps
      obtain ⟨hPathSteps, hPathAbsolute⟩ := UnitFile.steps_path hName f
      refine ⟨UnitFile.readable_path hName hReaches.readable f, hShort,
        hNames _ (UnitFile.fileName?_path hName f), _, left, hPathSteps, ?_⟩
      rw [FileSystem.start, hPathAbsolute, ← hAbsolute]
      exact hWay
  refine ⟨hName, hFree, hAll, fun f hDirectory => ?_, ?_⟩
  · rw [UnitFile.place_path hName] at hDirectory
    have hFound := (hAll f).locate_of_entry .target hDirectory (by simp)
    rcases f.eq_source_or_mem_paths c with rfl | hMem
    · cases hLocate.symm.trans hFound
    · have hNone := hArtifacts _ hMem
      simp [FileSystem.isDirectory, FileSystem.entry?, hFound] at hNone
  · have hFound := hReaches.locate_of_entry .target rfl (hFree _)
    rw [hLocate] at hFound
    have hSpelled : site.place c.sourcePath = place :=
      (UnitFile.place_path hName site .source).trans
        (congrArg Spot.place (Except.ok.inj hFound)).symm
    rwa [hSpelled]

/-- Where each file of a unit is found. -/
theorem locate_eq (h : Workable site c sourceName t) (purpose : FileTree.Purpose) (f : UnitFile) :
    (⟨site, t⟩ : FileSystem).locate purpose (f.path c) =
      .ok ⟨site.place (f.path c), t.get? (site.place (f.path c))⟩ := by
  rw [UnitFile.place_path h.name]
  exact (h.reaches f).locate_of_entry purpose rfl (h.linkFree _)

/-- Where the files of a unit can be worked on, a look at one of them finds what the tree holds at
its place. -/
theorem entry?_eq (h : Workable site c sourceName t) (f : UnitFile) :
    FileSystem.entry? ⟨site, t⟩ (f.path c) = t.get? (site.place (f.path c)) := by
  rw [FileSystem.entry?, h.locate_eq]

/-- Where the files of a unit can be worked on, what is written to one of them goes to its place. -/
theorem writable_eq (h : Workable site c sourceName t) (f : UnitFile) :
    (⟨site, t⟩ : FileSystem).writable (f.path c) =
      .ok ⟨site.place (f.path c), t.get? (site.place (f.path c))⟩ := by
  have hPlain := h.plain f
  simp only [FileSystem.writable, h.locate_eq, bind, Except.bind]
  rfl

end Workable

end CallbackWeave

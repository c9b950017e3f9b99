import CallbackWeave.Proofs.Pipeline.UnitFiles

/-!
What the path of a temporary file tells. The file stands in the directory of its source, and its
name is read back from its end: behind the last point stands the extension, before that the tag
between underscores, and what is left is the stem of the source. None of this hangs on what the stem
itself looks like. So two temporary files share a path only if they are of one kind and their sources
share directory, stem and extension, where a source without an extension counts as one with `c`. The
path of a temporary file may still be that of the source of another command; nothing is said about
that.
-/

namespace CallbackWeave

namespace Path

/-- A name is cut at its last point, if something stands before it. -/
theorem splitName_append {before after : List Char} (hBefore : before ≠ []) (hAfter : '.' ∉ after) :
    splitName (before ++ '.' :: after) = (before, some after) := by
  have hPlain : ∀ c ∈ after.reverse, decide (c ≠ '.') = true := by
    intro c hMem
    have hOther : c ≠ '.' := ne_of_mem_of_not_mem (List.mem_reverse.mp hMem) hAfter
    simpa using hOther
  have hReversed : (before ++ '.' :: after).reverse = after.reverse ++ '.' :: before.reverse := by
    simp
  have hBehind : ((before ++ '.' :: after).reverse.takeWhile (· ≠ '.')).reverse = after := by
    rw [hReversed, List.takeWhile_append_of_pos hPlain]
    simp
  have hLength : (before ++ '.' :: after).length = before.length + (after.length + 1) := by simp
  have hFront : (before ++ '.' :: after).take
      ((before ++ '.' :: after).length - after.length - 1) = before :=
    List.take_left' (by omega)
  unfold splitName
  simp only [hBehind, hFront]
  rw [if_neg]
  simp only [List.isEmpty_iff, hBefore, or_false]
  omega

/-- What stands behind the last point of a name holds none. -/
theorem point_notMem_extension {p : Path} {extension : String}
    (hExtension : p.extension? = some extension) : '.' ∉ extension.toList := by
  obtain ⟨name, -, hSplit⟩ := Option.bind_eq_some_iff.mp hExtension
  obtain ⟨after, hAfter, rfl⟩ := Option.map_eq_some_iff.mp hSplit
  rw [String.toList_ofList]
  unfold splitName at hAfter
  simp only at hAfter
  split_ifs at hAfter
  obtain rfl := Option.some.inj hAfter
  intro hMem
  have hPlain := List.mem_takeWhile_imp (List.mem_reverse.mp hMem)
  simp at hPlain

/-- A name joined to a path is one component more. -/
theorem components_join_name (base : Path) {s : String} (hName : EntryName s) :
    (base.join ⟨s⟩).components = base.components ++ [.name s] := by
  have hRelative := isAbsolute_of_entryName hName
  -- A `.` at the front stays there, and the name does not bring one.
  have hFront : (base.join ⟨s⟩).stretches.head? = some ['.'] ↔
      base.stretches.head? = some ['.'] := by
    rcases text_join base hRelative with ⟨hText, hBase⟩ | ⟨front, hText, hBase⟩
    · simp [stretches, hText, hBase, List.splitOn_eq_singleton hName.no_separator, hName.not_here]
    · obtain ⟨first, rest, hSplit⟩ := List.exists_cons_of_ne_nil (List.splitOn_ne_nil '/' front)
      rcases hBase with ⟨hBase, -⟩ | hBase <;>
        simp [stretches, hText, hBase, List.splitOn_append_cons_self, hSplit]
  rw [components_eq, components_eq, inner_join hRelative, inner_of_entryName hName,
    isAbsolute_join hRelative, List.append_assoc]
  simp only [hFront]

theorem parent?_join_name (base : Path) {s : String} (hName : EntryName s) :
    (base.join ⟨s⟩).parent? = some (ofComponents base.components) := by
  simp [parent?, components_join_name base hName]

/-- Paths with the same components have the same directory and the same name at their end. -/
theorem ends_of_agrees {p q : Path} (hAgrees : p.agrees q = true) :
    p.parent? = q.parent? ∧ p.fileName? = q.fileName? := by
  have hSame : p.components = q.components := of_decide_eq_true hAgrees
  simp only [parent?, fileName?, hSame, and_self]

theorem agrees_refl (p : Path) : p.agrees p = true := decide_eq_true rfl

end Path

/-- The directory of a folded path is written so that its components are read back. -/
theorem NormalPath.components_parent {n : NormalPath} (hProper : n.Proper) (hInner : n.inner ≠ []) :
    (Path.ofComponents n.components.dropLast).components = n.components.dropLast := by
  have hFront : ∀ c ∈ n.inner.dropLast, c.IsInner := fun c hMem =>
    hProper.inner c ((List.dropLast_sublist _).subset hMem)
  rcases hProper.components_cases with ⟨-, hForm⟩ | ⟨-, -, hForm⟩ | ⟨-, hEmpty, -⟩
  · rw [hForm, List.dropLast_cons_of_ne_nil hInner]
    exact Path.components_ofComponents_root hFront
  · rw [hForm]
    exact Path.components_ofComponents hFront
  · exact absurd hEmpty hInner

namespace Artifacts

variable {c d : CompileCommand}

theorem point_notMem_extension (c : CompileCommand) :
    '.' ∉ (c.sourcePath.extension?.getD "c").toList := by
  cases hExtension : c.sourcePath.extension? with
  | none => decide
  | some extension => exact Path.point_notMem_extension hExtension

/-- The name of a temporary file is cut at the point that was put into it, and at no point of its
stem. -/
theorem splitName_fileName (c : CompileCommand) (tag : String) :
    Path.splitName (fileName c tag).toList =
      (c.stem.toList ++ "__hookpass_".toList ++ tag.toList ++ "__".toList,
        some (c.sourcePath.extension?.getD "c").toList) := by
  have hText : (fileName c tag).toList =
      (c.stem.toList ++ "__hookpass_".toList ++ tag.toList ++ "__".toList) ++
        '.' :: (c.sourcePath.extension?.getD "c").toList := by
    simp [toList_fileName]
  rw [hText]
  exact Path.splitName_append (by simp) (point_notMem_extension c)

/-- The name of a temporary file is read back from its end, as long as its tag holds no
underscore. -/
theorem fileName_eq_iff {tag other : String} (hTag : '_' ∉ tag.toList)
    (hOther : '_' ∉ other.toList) :
    fileName c tag = fileName d other ↔
      tag = other ∧ c.stem = d.stem ∧
        c.sourcePath.extension?.getD "c" = d.sourcePath.extension?.getD "c" := by
  constructor
  · intro hSame
    have hSplit := congrArg (fun name : String => Path.splitName name.toList) hSame
    simp only [splitName_fileName, Prod.mk.injEq, Option.some.injEq] at hSplit
    obtain ⟨hFront, hExtension⟩ := hSplit
    -- Before the last two underscores, the tag is all that stands behind the last one.
    have hMarked : (c.stem.toList ++ "__hookpass".toList) ++ '_' :: tag.toList =
        (d.stem.toList ++ "__hookpass".toList) ++ '_' :: other.toList := by
      simpa using List.append_cancel_right hFront
    obtain ⟨hStem, hTags⟩ := Text.append_separator_inj hTag hOther hMarked
    exact ⟨String.toList_inj.mp hTags, String.toList_inj.mp (List.append_cancel_right hStem),
      String.toList_inj.mp hExtension⟩
  · rintro ⟨rfl, hStem, hExtension⟩
    rw [fileName, fileName, hStem, hExtension]

end Artifacts

namespace UnitFile

variable {c d : CompileCommand} {sourceName otherName : String} {f g : UnitFile}

/-- The tag in the name of a temporary file; the source has none. -/
def tag : UnitFile → String
  | source => ""
  | annotated => "org"
  | expanded => "pp"
  | merged => "new"

theorem tag_injective : Function.Injective tag := by
  intro f g hSame
  cases f <;> cases g <;> simp_all [tag]

theorem underscore_notMem_tag (f : UnitFile) : '_' ∉ f.tag.toList := by
  cases f <;> decide

theorem path_eq_beside (hArtifact : f ≠ source) : f.path c = Artifacts.beside c f.tag := by
  rw [path.eq_def, Artifacts.ofCommand_eq]
  cases f with
  | source => exact absurd rfl hArtifact
  | annotated => rfl
  | expanded => rfl
  | merged => rfl

theorem name_eq_fileName (hArtifact : f ≠ source) :
    f.name c sourceName = Artifacts.fileName c f.tag := by
  cases f with
  | source => exact absurd rfl hArtifact
  | annotated => rfl
  | expanded => rfl
  | merged => rfl

theorem stem?_sourcePath (hName : c.file.fileName? = some sourceName) :
    c.sourcePath.stem? = some c.stem := by
  simp [Path.stem?, CompileCommand.stem, hName, fileName?_sourcePath hName]

/-- The source of a command that names one has a directory, which is that of the folded path. -/
theorem parent?_sourcePath (hName : c.file.fileName? = some sourceName) :
    (c.directory.join c.file).normal.inner ≠ [] ∧ c.sourcePath.parent? =
      some (Path.ofComponents (c.directory.join c.file).normal.components.dropLast) := by
  obtain ⟨above, hNames⟩ := Path.names_normal_join c.directory hName
  have hInner : (c.directory.join c.file).normal.inner ≠ [] := by simp [NormalPath.inner, hNames]
  refine ⟨hInner, ?_⟩
  rw [CompileCommand.sourcePath, Path.resolveIn_eq,
    NormalPath.parent?_toPath (c.directory.join c.file).normal_proper hInner]

/-- The temporary files of a command stand in the directory of its source. -/
theorem parent?_path (hName : c.file.fileName? = some sourceName) (f : UnitFile) :
    (f.path c).parent? = c.sourcePath.parent? := by
  obtain ⟨hInner, hSource⟩ := parent?_sourcePath hName
  rcases f.eq_source_or_exists_tag c sourceName with rfl | ⟨tag, ⟨hTag, -⟩, hPath, -⟩
  · rfl
  · rw [hPath]
    unfold Artifacts.beside
    rw [hSource, Option.getD_some, Path.parent?_join_name _ (Artifacts.entryName_fileName c hTag),
      NormalPath.components_parent (c.directory.join c.file).normal_proper hInner]

/-- A temporary file has the extension of its source, or `c`. -/
theorem extension?_path (hName : c.file.fileName? = some sourceName) (hArtifact : f ≠ source) :
    (f.path c).extension? = some (c.sourcePath.extension?.getD "c") := by
  rw [Path.extension?, fileName?_path hName f, name_eq_fileName hArtifact, Option.bind_some,
    Artifacts.splitName_fileName, Option.map_some, String.ofList_toList]

/-- Two files of one unit have different components. -/
theorem eq_of_agrees (hName : c.file.fileName? = some sourceName)
    (hAgrees : (f.path c).agrees (g.path c) = true) : f = g := by
  have hLast := (Path.ends_of_agrees hAgrees).2
  rw [fileName?_path hName f, fileName?_path hName g] at hLast
  exact name_injective hName (Option.some.inj hLast)

/-- The path of a temporary file is fixed by the directory of the source and its own name, and fixes
both. -/
theorem agrees_iff (hName : c.file.fileName? = some sourceName)
    (hOther : d.file.fileName? = some otherName) (hF : f ≠ source) (hG : g ≠ source) :
    (f.path c).agrees (g.path d) = true ↔
      c.sourcePath.parent? = d.sourcePath.parent? ∧ f.name c sourceName = g.name d otherName := by
  constructor
  · intro hAgrees
    obtain ⟨hAbove, hLast⟩ := Path.ends_of_agrees hAgrees
    rw [parent?_path hName f, parent?_path hOther g] at hAbove
    rw [fileName?_path hName f, fileName?_path hOther g, Option.some.injEq] at hLast
    exact ⟨hAbove, hLast⟩
  · rintro ⟨hAbove, hLast⟩
    rw [name_eq_fileName hF, name_eq_fileName hG] at hLast
    have hPath : f.path c = g.path d := by
      rw [path_eq_beside hF, path_eq_beside hG]
      unfold Artifacts.beside
      rw [hAbove, hLast]
    rw [hPath]
    exact Path.agrees_refl _

/-- The name of a temporary file tells its kind, and the stem and the extension of the source. -/
theorem name_eq_iff (hF : f ≠ source) (hG : g ≠ source) :
    f.name c sourceName = g.name d otherName ↔
      f = g ∧ c.stem = d.stem ∧
        c.sourcePath.extension?.getD "c" = d.sourcePath.extension?.getD "c" := by
  rw [name_eq_fileName hF, name_eq_fileName hG,
    Artifacts.fileName_eq_iff f.underscore_notMem_tag g.underscore_notMem_tag,
    tag_injective.eq_iff]

end UnitFile

namespace Artifacts

/-- The temporary files of a command that names a source are told from the source and from each
other, stand in its directory and have its extension. Temporary files of two commands are told apart
by their paths, whatever the sources are called, unless the files are of one kind and the sources
have the same directory, stem and extension. Paths are compared by their components, so that two
spellings of one path do not count as different. -/
theorem paths_told_apart {c : CompileCommand} {sourceName : String}
    (hName : c.file.fileName? = some sourceName) :
    (∀ f g : UnitFile, f ≠ g → (f.path c).agrees (g.path c) = false) ∧
    (∃ parent, c.sourcePath.parent? = some parent ∧
      ∀ f : UnitFile, f ≠ .source → (f.path c).parent? = some parent ∧
        (f.path c).extension? = some (c.sourcePath.extension?.getD "c")) ∧
    ∀ (d : CompileCommand) (otherName : String), d.file.fileName? = some otherName →
      ∀ f g : UnitFile, f ≠ .source → g ≠ .source →
        ((f.path c).agrees (g.path d) = true ↔
          f = g ∧ c.sourcePath.parent? = d.sourcePath.parent? ∧
            c.sourcePath.stem? = d.sourcePath.stem? ∧
            c.sourcePath.extension?.getD "c" = d.sourcePath.extension?.getD "c") := by
  refine ⟨?_, ?_, ?_⟩
  · intro f g hKind
    exact Bool.eq_false_iff.mpr fun hAgrees => hKind (UnitFile.eq_of_agrees hName hAgrees)
  · obtain ⟨-, hParent⟩ := UnitFile.parent?_sourcePath hName
    exact ⟨_, hParent, fun f hArtifact =>
      ⟨(UnitFile.parent?_path hName f).trans hParent, UnitFile.extension?_path hName hArtifact⟩⟩
  · intro d otherName hOther f g hF hG
    rw [UnitFile.agrees_iff hName hOther hF hG, UnitFile.name_eq_iff hF hG,
      UnitFile.stem?_sourcePath hName, UnitFile.stem?_sourcePath hOther, Option.some.injEq]
    exact and_left_comm

/-- A command for a hidden source without an extension, called like a temporary file. -/
def hiddenCommand : CompileCommand := ⟨⟨"/p/b"⟩, ⟨"../.a__hookpass_pp__"⟩, none, some ["cc"]⟩

/-- A command for a source beside it with the extension that the other lacks. -/
def extendedCommand : CompileCommand := ⟨⟨"/p"⟩, ⟨"./.a__hookpass_pp__.c"⟩, none, some ["cc"]⟩

theorem paths_told_apart_hidden :
    hiddenCommand.file.fileName? = some ".a__hookpass_pp__" ∧
    extendedCommand.file.fileName? = some ".a__hookpass_pp__.c" ∧
    (∀ f g : UnitFile, f ≠ g → (f.path hiddenCommand).agrees (g.path hiddenCommand) = false) ∧
    (∀ f : UnitFile, f ≠ .source → (f.path hiddenCommand).parent? = some ⟨"/p"⟩ ∧
      (f.path hiddenCommand).extension? = some "c") ∧
    hiddenCommand.sourcePath.agrees extendedCommand.sourcePath = false ∧
    ∀ f g : UnitFile, f ≠ .source → g ≠ .source →
      ((f.path hiddenCommand).agrees (g.path extendedCommand) = true ↔ f = g) := by
  have hHidden : hiddenCommand.file.fileName? = some ".a__hookpass_pp__" := by decide +kernel
  have hExtended : extendedCommand.file.fileName? = some ".a__hookpass_pp__.c" := by
    decide +kernel
  obtain ⟨hApart, ⟨parent, hParent, hBeside⟩, hShared⟩ := paths_told_apart hHidden
  have hSource : hiddenCommand.sourcePath = ⟨"/p/.a__hookpass_pp__"⟩ := by decide +kernel
  have hOther : extendedCommand.sourcePath = ⟨"/p/.a__hookpass_pp__.c"⟩ := by decide +kernel
  have hShort : (⟨"/p/.a__hookpass_pp__"⟩ : Path).parent? = some ⟨"/p"⟩ ∧
      (⟨"/p/.a__hookpass_pp__"⟩ : Path).stem? = some ".a__hookpass_pp__" ∧
      (⟨"/p/.a__hookpass_pp__"⟩ : Path).extension? = none := by decide +kernel
  have hLong : (⟨"/p/.a__hookpass_pp__.c"⟩ : Path).parent? = some ⟨"/p"⟩ ∧
      (⟨"/p/.a__hookpass_pp__.c"⟩ : Path).stem? = some ".a__hookpass_pp__" ∧
      (⟨"/p/.a__hookpass_pp__.c"⟩ : Path).extension? = some "c" := by decide +kernel
  refine ⟨hHidden, hExtended, hApart, ?_, ?_, fun f g hF hG => ?_⟩
  · rw [hSource, hShort.1, Option.some.injEq] at hParent
    rwa [← hParent, hSource, hShort.2.2] at hBeside
  · rw [hSource, hOther]
    decide +kernel
  · rw [hShared extendedCommand _ hExtended f g hF hG, hSource, hOther, hShort.1, hShort.2.1,
      hShort.2.2, hLong.1, hLong.2.1, hLong.2.2]
    simp

end Artifacts

end CallbackWeave

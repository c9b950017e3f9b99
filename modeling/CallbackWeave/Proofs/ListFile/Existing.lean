import CallbackWeave.Proofs.Command.LexicalIdentity
import CallbackWeave.Proofs.FileTree.Rewriting
import CallbackWeave.Proofs.Path.Canonical
import CallbackWeave.Proofs.Pipeline.Selection
import CallbackWeave.Proofs.Text.Trimming
import Mathlib.Logic.Relation

/-!
What a list of sources that has been read restricts a run to. Only the entries that exist count, each
as the absolute path that it stands for, and where none exists there is no restriction. So the
answers of the list hang on the set of its existing entries alone: not on the order of its lines, on
lines that say the same, on blanks, or on entries that lead to nothing.
-/

namespace CallbackWeave

namespace ListFile

/-- An entry of the text of a list file: what one of its lines holds between the blanks at the two
ends, unless that is nothing. -/
structure Lists (text entry : String) : Prop where
  nonempty : entry.toList ≠ []
  trimmed : Text.IsTrimmed entry.toList
  line : ∃ front back, Text.IsBlank front ∧ Text.IsBlank back ∧
    front ++ entry.toList ++ back ∈ Text.lines text.toList

/-- A change to the lines of a list file that takes no existing entry out and brings none in. -/
inductive Edit (fs : FileSystem) : List (List Char) → List (List Char) → Prop
  | reordered {lines others : List (List Char)} (perm : lines.Perm others) : Edit fs lines others
  | repeated {line : List Char} {lines : List (List Char)} (mem : line ∈ lines) :
      Edit fs lines (line :: lines)
  | blank {line : List Char} {lines : List (List Char)} (all : Text.IsBlank line) :
      Edit fs lines (line :: lines)
  | surrounded {front line back : List Char} {lines : List (List Char)}
      (before : Text.IsBlank front) (after : Text.IsBlank back) :
      Edit fs (line :: lines) ((front ++ line ++ back) :: lines)
  | missing {line : List Char} {lines : List (List Char)}
      (gone : fs.holds ⟨String.ofList (Text.trim line)⟩ = false) : Edit fs lines (line :: lines)

theorem mem_ofText_iff {text entry : String} :
    entry ∈ ofText text ↔
      entry.toList ≠ [] ∧ ∃ line ∈ Text.lines text.toList, Text.trim line = entry.toList := by
  have hText : ∀ s : List Char, String.ofList s = entry ↔ s = entry.toList := by
    intro s
    rw [← String.toList_inj, String.toList_ofList]
  simp only [ofText, Text.entries, List.mem_map, List.mem_filter, hText]
  constructor
  · rintro ⟨s, ⟨⟨line, hLine, hTrim⟩, hSome⟩, rfl⟩
    exact ⟨by simpa using hSome, line, hLine, hTrim⟩
  · rintro ⟨hSome, line, hLine, hTrim⟩
    exact ⟨_, ⟨⟨line, hLine, hTrim⟩, by simpa using hSome⟩, rfl⟩

/-- The entries that are read are those that the lines hold. -/
theorem mem_ofText_iff_lists {text entry : String} : entry ∈ ofText text ↔ Lists text entry := by
  rw [mem_ofText_iff]
  constructor
  · rintro ⟨hSome, line, hLine, hTrim⟩
    obtain ⟨front, back, hSplit, hFront, hBack, hTrimmed⟩ := Text.exists_surrounding line
    rw [hTrim] at hSplit hTrimmed
    exact ⟨hSome, hTrimmed, front, back, hFront, hBack, hSplit ▸ hLine⟩
  · rintro ⟨hSome, hTrimmed, front, back, hFront, hBack, hLine⟩
    exact ⟨hSome, _, hLine, Text.trim_surrounded hFront hTrimmed hBack⟩

variable {fs : FileSystem} {lines others : List (List Char)} {entry : String}

theorem nonempty_of_holds (hHolds : fs.holds ⟨entry⟩ = true) : entry.toList ≠ [] := by
  obtain ⟨-, -, hText, -⟩ := FileSystem.holds_iff.mp hHolds
  simpa using hText

/-- One edit keeps the existing entries. -/
theorem Edit.trim_iff (h : Edit fs lines others) (hHolds : fs.holds ⟨entry⟩ = true) :
    (∃ line ∈ lines, Text.trim line = entry.toList) ↔
      ∃ line ∈ others, Text.trim line = entry.toList := by
  cases h with
  | reordered perm => simp only [perm.mem_iff]
  | @repeated line lines mem =>
      constructor
      · rintro ⟨found, hFound, hTrim⟩
        exact ⟨found, List.mem_cons_of_mem line hFound, hTrim⟩
      · rintro ⟨found, hFound, hTrim⟩
        rcases List.mem_cons.mp hFound with rfl | hFound
        · exact ⟨found, mem, hTrim⟩
        · exact ⟨found, hFound, hTrim⟩
  | @blank line lines all =>
      have hNone : Text.trim line ≠ entry.toList := by
        rw [Text.trim_of_isBlank all]
        exact (nonempty_of_holds hHolds).symm
      simp [hNone]
  | surrounded before after =>
      simp only [List.mem_cons, exists_eq_or_imp, Text.trim_append before after]
  | @missing line lines gone =>
      have hOther : Text.trim line ≠ entry.toList := by
        intro hTrim
        rw [hTrim, String.ofList_toList, hHolds] at gone
        cases gone
      simp [hOther]

/-- So do any number of edits, made or taken back. -/
theorem trim_iff_of_edits (h : Relation.EqvGen (Edit fs) lines others)
    (hHolds : fs.holds ⟨entry⟩ = true) :
    (∃ line ∈ lines, Text.trim line = entry.toList) ↔
      ∃ line ∈ others, Text.trim line = entry.toList := by
  induction h with
  | rel _ _ edit => exact edit.trim_iff hHolds
  | refl _ => exact Iff.rfl
  | symm _ _ _ ih => exact ih.symm
  | trans _ _ _ _ _ first second => exact first.trans second

end ListFile

namespace Allowlist

variable {fs other : FileSystem} {list : Path} {text : String} {query : Path}

theorem load_of_readText (hRead : fs.readText list = .ok text) :
    load fs list = .ok (ofEntries fs (ListFile.ofText text)) := by
  rw [load, if_pos (FileSystem.holds_of_readText hRead), ListFile.load, hRead]
  rfl

/-- Two lists admit the same where the same paths exist and are made absolute alike, if the same
existing paths are entries of them. -/
theorem admits_ofEntries_congr {entries others : List String}
    (hHolds : ∀ p, other.holds p = fs.holds p)
    (hAbsolute : ∀ p, other.absolutize p = fs.absolutize p)
    (hSame : ∀ e, fs.holds ⟨e⟩ = true → (e ∈ others ↔ e ∈ entries)) :
    (ofEntries other others).admits query = (ofEntries fs entries).admits query := by
  have hNone : (∀ e ∈ others, fs.holds ⟨e⟩ = false) ↔ ∀ e ∈ entries, fs.holds ⟨e⟩ = false := by
    refine forall_congr' fun e => ?_
    cases hEntry : fs.holds ⟨e⟩ with
    | false => simp
    | true => simp [hSame e hEntry]
  rw [Bool.eq_iff_iff, admits_ofEntries_iff, admits_ofEntries_iff]
  simp only [hHolds, hAbsolute, hNone]
  exact or_congr_right (exists_congr fun e => and_congr_left fun hEntry => hSame e hEntry.1)

/-- Editing a list without changing which of its entries exist changes no answer, whether the list
is written over or the lines stand in another file. -/
theorem admits_of_edits {tree : FileTree} {edited : String} (hKeeps : fs.tree.KeepsNames tree)
    (hBack : tree.KeepsNames fs.tree)
    (hEdits : Relation.EqvGen (ListFile.Edit fs) (Text.lines text.toList)
      (Text.lines edited.toList)) :
    (ofEntries ⟨fs.toSite, tree⟩ (ListFile.ofText edited)).admits query =
      (ofEntries fs (ListFile.ofText text)).admits query := by
  refine admits_ofEntries_congr (fun p => FileSystem.holds_eq_of_keepsNames hBack hKeeps p)
    (fun p => rfl) fun e hHolds => ?_
  rw [ListFile.mem_ofText_iff, ListFile.mem_ofText_iff, ListFile.trim_iff_of_edits hEdits hHolds]

/-- What has been read of a list file is the set of its existing entries, made absolute: a path is
admitted exactly if no entry exists or if it is that of one that does. The paths that are kept are
absolute and folded. No answer changes when lines are reordered, repeated or surrounded by blanks, or
when lines are added that are blank or lead to nothing; and a list file that does not exist is as
good as one without entries. -/
theorem load_existing_entries :
    (∀ (fs : FileSystem) (list : Path) (text : String), fs.readText list = .ok text →
      ∃ allowlist, load fs list = .ok allowlist ∧
        (∀ query, allowlist.admits query = true ↔
          (∀ e, ListFile.Lists text e → fs.holds ⟨e⟩ = false) ∨
            ∃ e, ListFile.Lists text e ∧ fs.holds ⟨e⟩ = true ∧
              (fs.absolutize ⟨e⟩).agrees query = true) ∧
        (∀ file ∈ allowlist.files, file.isAbsolute = true ∧ file.normalize = file) ∧
        ∀ (tree : FileTree) (second : Path) (edited : String),
          fs.tree.KeepsNames tree → tree.KeepsNames fs.tree →
          FileSystem.readText ⟨fs.toSite, tree⟩ second = .ok edited →
          Relation.EqvGen (ListFile.Edit fs) (Text.lines text.toList)
            (Text.lines edited.toList) →
          ∃ same, load ⟨fs.toSite, tree⟩ second = .ok same ∧
            ∀ query, same.admits query = allowlist.admits query) ∧
    ∀ (fs : FileSystem) (absent : Path), fs.holds absent = false →
      ∃ allowlist, load fs absent = .ok allowlist ∧ (∀ query, allowlist.admits query = true) ∧
        ∀ (bare : Path) (text : String), fs.readText bare = .ok text →
          (∀ e, ¬ ListFile.Lists text e) → load fs bare = .ok allowlist := by
  constructor
  · intro fs list text hRead
    have hLoad := load_of_readText hRead
    refine ⟨_, hLoad, fun query => ?_, fun file hFile => ?_, ?_⟩
    · simp only [admits_ofEntries_iff, ListFile.mem_ofText_iff_lists]
    · obtain ⟨entry, rfl⟩ := exists_absolutize_of_load hLoad file hFile
      refine ⟨fs.isAbsolute_absolutize entry, ?_⟩
      rw [fs.absolutize_eq, Path.normalize_normalize]
    · intro tree second edited hKeeps hBack hSecond hEdits
      exact ⟨_, load_of_readText hSecond, fun query => admits_of_edits hKeeps hBack hEdits⟩
  · intro fs absent hAbsent
    refine ⟨empty, by rw [load, if_neg (by simp [hAbsent])], fun query => rfl, ?_⟩
    intro bare text hRead hBare
    have hNone : ListFile.ofText text = [] := List.eq_nil_iff_forall_not_mem.mpr fun e hMem =>
      hBare e (ListFile.mem_ofText_iff_lists.mp hMem)
    rw [load_of_readText hRead, hNone]
    rfl

end Allowlist

/-- The list of that project with a blank line, an entry for a missing file and a second mention of
its entry before the one that it has. -/
def ListFile.relisted : String := "\n sub/b.c\n\tsub/a.c \r\nsub/a.c"

/-- The tree of the project with another text in its list. -/
def FileTree.relisted (text : String) : FileTree :=
  FileTree.listed.put ["work", "files.txt"] (.file (Utf8.encode text) false)

theorem FileSystem.readText_relisted {t : FileTree} {text : String} {content : Bytes}
    (hFile : t.get? ["work", "files.txt"] = some (.file content false))
    (hText : Utf8.decode? content = some text) :
    readText ⟨.sample, t⟩ ⟨"files.txt"⟩ = .ok text := by
  have hReaches : (⟨.sample, t⟩ : FileSystem).Reaches ⟨"files.txt"⟩ ["work"] "files.txt" :=
    reaches_of_steps (by decide) (by decide) (by decide) (by decide +kernel)
  exact readText_of_locate (hReaches.locate_of_entry .target hFile (by simp)) rfl hText

theorem FileSystem.holds_relisted :
    (⟨.sample, .listed⟩ : FileSystem).holds ⟨"sub/b.c"⟩ = false := by
  rw [Bool.eq_false_iff]
  intro hHolds
  obtain ⟨-, -, -, place, entry, hWalk⟩ := holds_iff.mp hHolds
  have hStart : (⟨.sample, .listed⟩ : FileSystem).start ⟨"sub/b.c"⟩ = ["work"] := by decide +kernel
  have hSteps : (⟨"sub/b.c"⟩ : Path).steps = [.into "sub", .into "b.c"] := by decide +kernel
  have hShort : ¬ "sub".utf8ByteSize > Path.nameLimit ∧ ¬ "b.c".utf8ByteSize > Path.nameLimit := by
    decide
  have hDirectory : FileTree.listed.get? ["work", "sub"] = some .directory := by decide +kernel
  have hNone : FileTree.listed.get? ["work", "sub", "b.c"] = none := by decide +kernel
  rw [hSteps, hStart] at hWalk
  simp [FileTree.walk, hShort, hDirectory, hNone] at hWalk

theorem ListFile.edits_relisted : Relation.EqvGen (Edit ⟨.sample, .listed⟩)
    (Text.lines "sub/a.c".toList) (Text.lines relisted.toList) := by
  have hOld : Text.lines "sub/a.c".toList = ["sub/a.c".toList] := by decide +kernel
  have hNew : Text.lines relisted.toList =
      [[], " sub/b.c".toList, ['\t'] ++ "sub/a.c".toList ++ [' ', '\r'], "sub/a.c".toList] := by
    decide +kernel
  have hTab : Text.IsBlank ['\t'] := by simp [Text.IsBlank, Text.isBlank]
  have hEnd : Text.IsBlank [' ', '\r'] := by simp [Text.IsBlank, Text.isBlank]
  have hName : String.ofList (Text.trim " sub/b.c".toList) = "sub/b.c" := by decide +kernel
  rw [hOld, hNew]
  refine .trans _ _ _ (.rel _ _ (.repeated List.mem_cons_self)) ?_
  refine .trans _ _ _ (.rel _ _ (.surrounded hTab hEnd)) ?_
  refine .trans _ _ _ (.rel _ _ (.missing (by rw [hName]; exact FileSystem.holds_relisted))) ?_
  exact .rel _ _ (.blank (by simp [Text.IsBlank]))

theorem Allowlist.load_existing_entries_relisted :
    (⟨.sample, .listed⟩ : FileSystem).readText ⟨"files.txt"⟩ = .ok "sub/a.c" ∧
    FileSystem.readText ⟨.sample, .relisted ListFile.relisted⟩ ⟨"files.txt"⟩ =
      .ok ListFile.relisted ∧
    (∃ allowlist same, load ⟨.sample, .listed⟩ ⟨"files.txt"⟩ = .ok allowlist ∧
      load ⟨.sample, .relisted ListFile.relisted⟩ ⟨"files.txt"⟩ = .ok same ∧
      ∀ query, same.admits query = allowlist.admits query) ∧
    FileSystem.holds ⟨.sample, .relisted ""⟩ ⟨"sub/b.c"⟩ = false ∧
    FileSystem.readText ⟨.sample, .relisted ""⟩ ⟨"files.txt"⟩ = .ok "" ∧
    (∀ e, ¬ ListFile.Lists "" e) ∧
    load ⟨.sample, .relisted ""⟩ ⟨"files.txt"⟩ = load ⟨.sample, .relisted ""⟩ ⟨"sub/b.c"⟩ := by
  have hListed : FileTree.listed.get? ["work", "files.txt"] =
      some (.file [0x73, 0x75, 0x62, 0x2f, 0x61, 0x2e, 0x63] false) := by decide +kernel
  have hKeeps : ∀ text, FileTree.listed.KeepsNames (.relisted text) ∧
      (FileTree.relisted text).KeepsNames .listed :=
    fun text => FileTree.keepsNames_put_file (by simp) hListed
  have hPut : ∀ text, (FileTree.relisted text).get? ["work", "files.txt"] =
      some (.file (Utf8.encode text) false) := by
    intro text
    rw [FileTree.relisted, FileTree.get?_put _ _ _ _ (by simp), if_pos rfl]
  have hFirst : (⟨.sample, .listed⟩ : FileSystem).readText ⟨"files.txt"⟩ = .ok "sub/a.c" :=
    FileSystem.readText_relisted hListed (by decide +kernel)
  have hSecond : FileSystem.readText ⟨.sample, .relisted ListFile.relisted⟩ ⟨"files.txt"⟩ =
      .ok ListFile.relisted := FileSystem.readText_relisted (hPut _) (by decide +kernel)
  have hBare : FileSystem.readText ⟨.sample, .relisted ""⟩ ⟨"files.txt"⟩ = .ok "" :=
    FileSystem.readText_relisted (hPut "") (by decide +kernel)
  have hAbsent : FileSystem.holds ⟨.sample, .relisted ""⟩ ⟨"sub/b.c"⟩ = false := by
    rw [← FileSystem.holds_relisted]
    exact FileSystem.holds_eq_of_keepsNames (hKeeps "").2 (hKeeps "").1 _
  have hNone : ∀ e, ¬ ListFile.Lists "" e := by
    intro e hEntry
    have hEmpty : ListFile.ofText "" = [] := by decide +kernel
    have hMem := ListFile.mem_ofText_iff_lists.mpr hEntry
    simp [hEmpty] at hMem
  obtain ⟨allowlist, hLoad, -, -, hEdited⟩ := load_existing_entries.1 _ _ _ hFirst
  obtain ⟨same, hSame, hAnswers⟩ := hEdited _ _ _ (hKeeps _).1 (hKeeps _).2 hSecond
    ListFile.edits_relisted
  obtain ⟨unrestricted, hOpen, -, hAlike⟩ := load_existing_entries.2 _ _ hAbsent
  exact ⟨hFirst, hSecond, ⟨allowlist, same, hLoad, hSame, hAnswers⟩, hAbsent, hBare, hNone,
    (hAlike _ _ hBare hNone).trans hOpen.symm⟩

end CallbackWeave

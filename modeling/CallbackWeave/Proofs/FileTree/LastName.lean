import CallbackWeave.Proofs.FileTree.Resolution

/-!
Operations on the last name of a path. Once the directory of that name is known, what the path leads
to, whether a file can be written there, and what is left when it is removed are told by one entry
of the tree. Nothing is assumed about links on the way to the directory.
-/

namespace CallbackWeave.FileSystem

/-- From where a path is resolved. -/
def start (fs : FileSystem) (p : Path) : Location :=
  if p.isAbsolute then [] else fs.workingDirectory

/-- The steps before the last name of a path lead to a directory, and neither the path nor the name
is longer than an operation on files takes. -/
structure Reaches (fs : FileSystem) (p : Path) (directory : Location) (name : String) : Prop where
  readable : '\x00' ∉ p.text.toList
  short : p.byteLength ≤ Path.lengthLimit
  nameShort : name.utf8ByteSize ≤ Path.nameLimit
  way : ∃ above left, p.steps = above ++ [.into name] ∧
    fs.tree.descend FileTree.linkLimit (fs.start p) above = .ok (directory, left)

theorem text_isEmpty_of_steps {p : Path} (hSteps : p.steps ≠ []) : p.text.isEmpty = false := by
  rw [Bool.eq_false_iff]
  intro hEmpty
  have hText : p = ⟨""⟩ := by
    cases p
    simpa using hEmpty
  exact hSteps (hText ▸ rfl)

theorem endsInSeparator_of_steps {p : Path} {above : List Step} {name : String}
    (hSteps : p.steps = above ++ [.into name]) : p.endsInSeparator = false := by
  rw [Bool.eq_false_iff]
  intro hEnd
  have hLast := congrArg List.getLast? hSteps
  simp [Path.steps, hEnd] at hLast

/-- A path of any length is resolved by its steps, if a system takes it at all. -/
theorem resolve_eq_ok_iff {fs : FileSystem} {purpose : FileTree.Purpose} {p : Path} {spot : Spot} :
    fs.resolve purpose p = .ok spot ↔ '\x00' ∉ p.text.toList ∧ p.text.isEmpty = false ∧
      fs.tree.walk purpose FileTree.linkLimit (fs.start p) p.steps = .ok spot := by
  unfold resolve start
  split_ifs with hNul hEmpty <;> simp_all

/-- How a path that an operation on files takes is resolved. -/
theorem locate_eq_walk {fs : FileSystem} {p : Path} (purpose : FileTree.Purpose)
    (hReadable : '\x00' ∉ p.text.toList) (hShort : p.byteLength ≤ Path.lengthLimit)
    (hText : p.text.isEmpty = false) :
    fs.locate purpose p =
      fs.tree.walk purpose FileTree.linkLimit (fs.start p) p.steps := by
  have hLength : ¬ p.byteLength > Path.lengthLimit := Nat.not_lt.mpr hShort
  rw [locate, if_neg (by simp [hLength]), resolve, if_neg (by simpa using hReadable),
    if_neg (by simp [hText]), start]

/-- A path that can be located is one that an operation on files takes. -/
theorem short_of_locate {fs : FileSystem} {purpose : FileTree.Purpose} {p : Path} {spot : Spot}
    (hLocate : fs.locate purpose p = .ok spot) :
    '\x00' ∉ p.text.toList ∧ p.byteLength ≤ Path.lengthLimit ∧ p.text.isEmpty = false := by
  have hReadable : '\x00' ∉ p.text.toList := by
    intro hNul
    rw [locate, if_neg (by simp [hNul]), resolve, if_pos (by simpa using hNul)] at hLocate
    cases hLocate
  have hShort : ¬ p.byteLength > Path.lengthLimit := by
    intro hLong
    rw [locate, if_pos (by simp [hReadable, hLong])] at hLocate
    cases hLocate
  refine ⟨hReadable, Nat.not_lt.mp hShort, ?_⟩
  by_contra hEmpty
  rw [locate, if_neg (by simp [hShort]), resolve, if_neg (by simpa using hReadable),
    if_pos (by simpa using hEmpty)] at hLocate
  cases hLocate

/-- A path that is one name leads to the entry of that name where its resolution begins. -/
theorem reaches_of_steps {fs : FileSystem} {p : Path} {name : String}
    (hReadable : '\x00' ∉ p.text.toList) (hShort : p.byteLength ≤ Path.lengthLimit)
    (hName : name.utf8ByteSize ≤ Path.nameLimit) (hSteps : p.steps = [.into name]) :
    fs.Reaches p (fs.start p) name :=
  ⟨hReadable, hShort, hName, [], FileTree.linkLimit, hSteps, by rw [FileTree.descend]⟩

namespace Reaches

variable {fs : FileSystem} {p : Path} {directory : Location} {name : String}

/-- What is left of a resolution once the directory is known. -/
theorem locate_eq (h : fs.Reaches p directory name) :
    ∃ left, ∀ purpose, fs.locate purpose p =
      fs.tree.walk purpose left directory [.into name] := by
  obtain ⟨above, left, hSteps, hWay⟩ := h.way
  refine ⟨left, fun purpose => ?_⟩
  have hText : p.text.isEmpty = false := text_isEmpty_of_steps (by simp [hSteps])
  rw [locate_eq_walk purpose h.readable h.short hText, hSteps,
    FileTree.walk_append _ _ _ _ _ _ (by simp) (by simp), hWay]

/-- What a path leads to stands at its last name, unless that is a link. -/
theorem locate_of_entry (h : fs.Reaches p directory name) (purpose : FileTree.Purpose)
    {entry : Option Entry} (hEntry : fs.tree.get? (directory ++ [name]) = entry)
    (hLink : ∀ target, entry ≠ some (.link target)) :
    fs.locate purpose p = .ok ⟨directory ++ [name], entry⟩ := by
  obtain ⟨left, hLocate⟩ := h.locate_eq
  have hShort : ¬ name.utf8ByteSize > Path.nameLimit := Nat.not_lt.mpr h.nameShort
  cases entry with
  | none => simp [hLocate, FileTree.walk, hShort, hEntry]
  | some entry =>
      cases entry with
      | directory => simp [hLocate, FileTree.walk, hShort, hEntry]
      | file content executable => simp [hLocate, FileTree.walk, hShort, hEntry]
      | link target => exact absurd rfl (hLink target)

/-- The directory is the one to which any spelling of the steps before the last name leads. -/
theorem exists_descend (h : fs.Reaches p directory name) {above : List Step} {last : String}
    (hSteps : p.steps = above ++ [.into last]) :
    name = last ∧
      ∃ left, fs.tree.descend FileTree.linkLimit (fs.start p) above = .ok (directory, left) := by
  obtain ⟨spelled, left, hSpelled, hWay⟩ := h.way
  obtain ⟨rfl, hName⟩ := List.append_inj' (hSpelled.symm.trans hSteps) rfl
  exact ⟨by simpa using hName, left, hWay⟩

theorem slot_eq (h : fs.Reaches p directory name) (refusal : IoError) :
    fs.slot p refusal = .ok (directory, name) := by
  obtain ⟨above, left, hSteps, hWay⟩ := h.way
  have hName : cutName p = some (above, name) := by simp [cutName, hSteps]
  have hEmpty : p.text.isEmpty = false := text_isEmpty_of_steps (by simp [hSteps])
  have hLength : ¬ p.byteLength > Path.lengthLimit := Nat.not_lt.mpr h.short
  have hNameLength : ¬ name.utf8ByteSize > Path.nameLimit := Nat.not_lt.mpr h.nameShort
  have hWalk : fs.tree.walk .target FileTree.linkLimit (fs.start p) (above ++ [.within]) =
      .ok ⟨directory, fs.tree.get? directory⟩ := by
    rw [FileTree.walk_append _ _ _ _ _ _ (by simp) (by simp), hWay]
    simp [FileTree.walk]
  have hReadable := h.readable
  rw [start] at hWalk
  simp [slot, hReadable, hEmpty, hLength, hName, hWalk, hNameLength]

/-- A file, or a link itself, is removed from where the last name stands. -/
theorem remove_eq (h : fs.Reaches p directory name) :
    fs.remove p = match fs.tree.get? (directory ++ [name]) with
      | none => .error .noSuchEntry
      | some .directory => .error .isDirectory
      | some _ => .ok (fs.tree.erase (directory ++ [name])) := by
  obtain ⟨above, left, hSteps, -⟩ := h.way
  simp only [remove, h.slot_eq, endsInSeparator_of_steps hSteps, bind, Except.bind, pure,
    Except.pure, throw, throwThe, MonadExceptOf.throw]
  cases fs.tree.get? (directory ++ [name]) with
  | none => rfl
  | some entry => cases entry <;> rfl

/-- The directory is found again in a tree that keeps the directories and links. -/
theorem mono {site : Site} {t other : FileTree}
    (h : (⟨site, t⟩ : FileSystem).Reaches p directory name)
    (hKeeps : t.KeepsWays other) : (⟨site, other⟩ : FileSystem).Reaches p directory name := by
  obtain ⟨above, left, hSteps, hWay⟩ := h.way
  exact ⟨h.readable, h.short, h.nameShort, above, left, hSteps, FileTree.descend_mono hKeeps hWay⟩

/-- A path reaches one directory only. -/
theorem directory_eq {other : Location} {last : String} (h : fs.Reaches p directory name)
    (hOther : fs.Reaches p other last) : directory = other := by
  have hSame := (h.slot_eq .isDirectory).symm.trans (hOther.slot_eq .isDirectory)
  simp_all

end Reaches

/-- The last name of a path that can be located stands in some directory. -/
theorem exists_reaches_of_locate {fs : FileSystem} {purpose : FileTree.Purpose} {p : Path}
    {above : List Step} {name : String} {spot : Spot} (hSteps : p.steps = above ++ [.into name])
    (hLocate : fs.locate purpose p = .ok spot) : ∃ directory, fs.Reaches p directory name := by
  obtain ⟨hReadable, hShort, hText⟩ := short_of_locate hLocate
  rw [locate_eq_walk purpose hReadable hShort hText, hSteps,
    FileTree.walk_append _ _ _ _ _ _ (by simp) (by simp)] at hLocate
  cases hWay : fs.tree.descend FileTree.linkLimit (fs.start p) above with
  | error cause => simp [hWay] at hLocate
  | ok found =>
      obtain ⟨directory, left⟩ := found
      have hName : name.utf8ByteSize ≤ Path.nameLimit := by
        by_contra hLong
        simp [hWay, FileTree.walk, Nat.not_le.mp hLong] at hLocate
      exact ⟨directory, hReadable, hShort, hName, above, left, hSteps, hWay⟩

/-- The last name of a path that has a slot stands in some directory. -/
theorem exists_reaches_of_slot {fs : FileSystem} {p : Path} {refusal : IoError} {above : List Step}
    {name : String} {found : Location × String} (hSteps : p.steps = above ++ [.into name])
    (hSlot : fs.slot p refusal = .ok found) : ∃ directory, fs.Reaches p directory name := by
  have hName : cutName p = some (above, name) := by simp [cutName, hSteps]
  have hEmpty : p.text.isEmpty = false := text_isEmpty_of_steps (by simp [hSteps])
  have hReadable : '\x00' ∉ p.text.toList := by
    intro hNul
    simp [slot, hNul, bind, Except.bind, throw, throwThe, MonadExceptOf.throw] at hSlot
  have hShort : ¬ p.byteLength > Path.lengthLimit := by
    intro hLong
    simp [slot, hReadable, hEmpty, hLong, bind, Except.bind, throw, throwThe,
      MonadExceptOf.throw] at hSlot
  have hWalk := FileTree.walk_append fs.tree .target FileTree.linkLimit (fs.start p) above [.within]
    (by simp) (by simp)
  cases hWay : fs.tree.descend FileTree.linkLimit (fs.start p) above with
  | error cause =>
      rw [hWay, start] at hWalk
      simp [slot, hReadable, hEmpty, hShort, hName, hWalk, bind, Except.bind] at hSlot
  | ok found =>
      obtain ⟨directory, left⟩ := found
      have hNameShort : ¬ name.utf8ByteSize > Path.nameLimit := by
        intro hLong
        rw [hWay, start] at hWalk
        simp [slot, hReadable, hEmpty, hShort, hName, hWalk, FileTree.walk, hLong, bind,
          Except.bind, throw, throwThe, MonadExceptOf.throw] at hSlot
      exact ⟨directory, hReadable, Nat.not_lt.mp hShort, Nat.not_lt.mp hNameShort, above, left,
        hSteps, hWay⟩

/-- The last name of a path that can be removed stands in some directory, and it is erased. -/
theorem exists_reaches_of_remove {fs : FileSystem} {p : Path} {above : List Step} {name : String}
    {tree : FileTree} (hSteps : p.steps = above ++ [.into name])
    (hRemove : fs.remove p = .ok tree) :
    ∃ directory, fs.Reaches p directory name ∧ tree = fs.tree.erase (directory ++ [name]) := by
  cases hSlot : fs.slot p .isDirectory with
  | error cause => simp [remove, hSlot, bind, Except.bind] at hRemove
  | ok found =>
      obtain ⟨directory, hReaches⟩ := exists_reaches_of_slot hSteps hSlot
      rw [hReaches.remove_eq] at hRemove
      split at hRemove
      · cases hRemove
      · cases hRemove
      · exact ⟨directory, hReaches, by simpa using hRemove.symm⟩

/-- Once the entry at its last name is erased, a path leads to nothing. -/
theorem Reaches.entry?_erase {site : Site} {t : FileTree} {p : Path} {directory : Location}
    {name : String} (h : (⟨site, t⟩ : FileSystem).Reaches p directory name) :
    FileSystem.entry? ⟨site, t.erase (directory ++ [name])⟩ p = none := by
  have hKeeps : (t.erase (directory ++ [name])).KeepsWays t := FileTree.keepsWays_of_erase (by simp)
  have hErased : (t.erase (directory ++ [name])).get? (directory ++ [name]) = none := by
    rw [FileTree.get?_erase _ _ _ (by simp), if_pos rfl]
  obtain ⟨above, left, hSteps, -⟩ := h.way
  rw [FileSystem.entry?]
  cases hLocate : (⟨site, t.erase (directory ++ [name])⟩ : FileSystem).locate .target p with
  | error cause => rfl
  | ok spot =>
      -- The directory that is found now was found before the entry was erased as well.
      obtain ⟨found, hFound⟩ := exists_reaches_of_locate hSteps hLocate
      have hSame : found = directory := (hFound.mono hKeeps).directory_eq h
      subst hSame
      rw [hFound.locate_of_entry .target hErased (by simp)] at hLocate
      cases hLocate
      rfl

theorem entry?_eq_some_iff {fs : FileSystem} {p : Path} {entry : Entry} :
    fs.entry? p = some entry ↔ ∃ place, fs.locate .target p = .ok ⟨place, some entry⟩ := by
  unfold entry?
  constructor
  · intro hEntry
    split at hEntry
    next spot hLocate => exact ⟨spot.place, by rw [hLocate, ← hEntry]⟩
    next => cases hEntry
  · rintro ⟨place, hLocate⟩
    rw [hLocate]

theorem canonical?_eq_some_iff_resolve {fs : FileSystem} {p : Path} {place : Location} :
    fs.canonical? p = some place ↔ ∃ entry, fs.resolve .target p = .ok ⟨place, some entry⟩ := by
  unfold canonical?
  constructor
  · intro hFound
    split at hFound
    next found entry hResolve =>
      obtain rfl := Option.some.inj hFound
      exact ⟨entry, hResolve⟩
    next => cases hFound
  · rintro ⟨entry, hResolve⟩
    rw [hResolve]

theorem sameFile_iff {fs : FileSystem} {p q : Path} :
    fs.sameFile p q = true ↔
      ∃ place, fs.canonical? p = some place ∧ fs.canonical? q = some place := by
  unfold sameFile
  split
  next a b hA hB => simp [hA, hB, eq_comm]
  next hNone =>
    refine iff_of_false Bool.false_ne_true ?_
    rintro ⟨place, hP, hQ⟩
    exact hNone place place hP hQ

/-- Erasing entries makes no path lead to anything to which it did not lead before. -/
theorem entry?_of_entry?_erase {site : Site} {t : FileTree} {place : Location} (hPlace : place ≠ [])
    {p : Path} {entry : Entry}
    (hEntry : FileSystem.entry? ⟨site, t.erase place⟩ p = some entry) :
    FileSystem.entry? ⟨site, t⟩ p = some entry := by
  obtain ⟨found, hLocate⟩ := entry?_eq_some_iff.mp hEntry
  obtain ⟨hReadable, hShort, hText⟩ := short_of_locate hLocate
  rw [locate_eq_walk .target hReadable hShort hText] at hLocate
  refine entry?_eq_some_iff.mpr ⟨found, ?_⟩
  rw [locate_eq_walk .target hReadable hShort hText]
  exact FileTree.walk_mono (fun _ _ hKept => FileTree.get?_of_get?_erase hPlace hKept) hLocate

theorem locate_of_writable {fs : FileSystem} {p : Path} {spot : Spot}
    (hWritable : fs.writable p = .ok spot) :
    fs.locate .writing p = .ok spot ∧ spot.entry ≠ some .directory := by
  unfold writable at hWritable
  cases hLocate : fs.locate .writing p with
  | error cause => simp [hLocate, bind, Except.bind] at hWritable
  | ok found =>
      simp only [hLocate, bind, Except.bind] at hWritable
      split at hWritable
      next => cases hWritable
      next hPlain =>
        obtain rfl := Except.ok.inj hWritable
        exact ⟨rfl, hPlain⟩

/-- A path that leads to a file leads to one that is no device. -/
theorem exists_of_isFile {fs : FileSystem} {p : Path} (hFile : fs.isFile p = true) :
    ∃ place content executable,
      fs.locate .target p = .ok ⟨place, some (.file content executable)⟩ ∧
        fs.devices.lookup place = none := by
  unfold isFile at hFile
  split at hFile
  next hLocate => exact ⟨_, _, _, hLocate, by simpa using hFile⟩
  next => cases hFile

/-- What a text file is read as. -/
theorem readText_of_locate {fs : FileSystem} {p : Path} {place : Location} {content : Bytes}
    {executable : Bool} {text : String}
    (hLocate : fs.locate .target p = .ok ⟨place, some (.file content executable)⟩)
    (hDevice : fs.devices.lookup place = none) (hText : Utf8.decode? content = some text) :
    fs.readText p = .ok text := by
  simp [readText, read, hLocate, hDevice, hText, bind, Except.bind, pure, Except.pure]

section

variable {fs : FileSystem} {p : Path} {spot : Spot} (hWritable : fs.writable p = .ok spot)

include hWritable

theorem walk_of_writable :
    '\x00' ∉ p.text.toList ∧ p.byteLength ≤ Path.lengthLimit ∧ p.text.isEmpty = false ∧
      fs.tree.walk .writing FileTree.linkLimit (fs.start p) p.steps = .ok spot := by
  obtain ⟨hLocate, -⟩ := locate_of_writable hWritable
  obtain ⟨hReadable, hShort, hText⟩ := short_of_locate hLocate
  rw [locate_eq_walk .writing hReadable hShort hText] at hLocate
  exact ⟨hReadable, hShort, hText, hLocate⟩

theorem entry_of_writable : spot.entry = fs.tree.get? spot.place := by
  obtain ⟨-, -, -, hWalk⟩ := walk_of_writable hWritable
  exact FileTree.entry_of_walk hWalk

/-- Nothing is written in the place of the root. -/
theorem place_ne_nil_of_writable : spot.place ≠ [] := by
  intro hRoot
  obtain ⟨-, hPlain⟩ := locate_of_writable hWritable
  exact hPlain (by rw [entry_of_writable hWritable, hRoot]; rfl)

end

end CallbackWeave.FileSystem

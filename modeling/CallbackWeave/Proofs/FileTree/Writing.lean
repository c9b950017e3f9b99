import CallbackWeave.Proofs.FileTree.LastName

/-!
Writing through a path. A path through which a file can be written leads to the place of that file
before and after, so that what has been written is what is read through the path, whether the file
was there or not and whatever links the path goes through.
-/

namespace CallbackWeave

namespace FileTree

variable {t other : FileTree} {purpose : Purpose} {links : Nat} {place : Location}
  {steps : List Step} {spot : Spot}

/-- Where a file can be written is also where the steps lead. -/
theorem walk_target_of_writing (hWalk : t.walk .writing links place steps = .ok spot) :
    t.walk .target links place steps = .ok spot := by
  generalize hPurpose : Purpose.writing = purpose at hWalk
  fun_induction walk t purpose links place steps with
  | case1 links place => rw [walk, ← hWalk]
  | case2 links place rest ih => rw [walk, ih hWalk]
  | case3 links place rest ih => rw [walk, ih hWalk]
  | case4 links place rest ih => rw [walk, ih hWalk]
  | case7 links place name rest hWriting hShort next hNone hLast =>
      simpa [walk, hShort, next, hNone, hLast] using hWalk
  | case9 links place name rest hWriting hShort next hDirectory ih =>
      simp [walk, hShort, next, hDirectory, ih hWalk]
  | case10 links place name rest hWriting hShort next content executable hFile hLast =>
      simpa [walk, hShort, next, hFile, hLast] using hWalk
  | case12 links place name rest hWriting hShort next target hLink hLast =>
      simp [← hPurpose] at hLast
  | case15 place name rest hWriting hShort next target hLink hMore hSome links ih =>
      simpa [walk, hShort, next, hLink, hSome] using ih hWalk
  | _ => cases hWalk

/-- Steps that end at no directory and no link lead to the file that stands in that place in a tree
that keeps the ways. -/
theorem walk_of_file (hKeeps : t.KeepsWays other)
    (hWalk : t.walk purpose links place steps = .ok spot)
    (hLink : ∀ target, spot.entry ≠ some (.link target)) {content : Bytes} {executable : Bool}
    (hFile : other.get? spot.place = some (.file content executable)) :
    other.walk purpose links place steps = .ok ⟨spot.place, some (.file content executable)⟩ := by
  fun_induction walk t purpose links place steps with
  | case1 links place =>
      obtain rfl := Except.ok.inj hWalk
      rw [walk, hFile]
  | case2 links place rest ih => rw [walk, ih hWalk]
  | case3 links place rest ih => rw [walk, ih hWalk]
  | case4 links place rest ih => rw [walk, ih hWalk]
  | case7 links place name rest hWriting hShort next hNone hLast =>
      obtain rfl := Except.ok.inj hWalk
      simp [walk, hWriting, hShort, next, hFile, hLast]
  | case9 links place name rest hWriting hShort next hDirectory ih =>
      simp [walk, hWriting, hShort, next, hKeeps.directory _ hDirectory, ih hWalk]
  | case10 links place name rest hWriting hShort next found mode hFound hLast =>
      obtain rfl := Except.ok.inj hWalk
      simp [walk, hWriting, hShort, next, hFile, hLast]
  | case12 links place name rest hWriting hShort next target hFound hLast =>
      obtain rfl := Except.ok.inj hWalk
      exact absurd rfl (hLink target)
  | case15 place name rest hWriting hShort next target hFound hMore hSome links ih =>
      simpa [walk, hWriting, hShort, next, hKeeps.link _ _ hFound, hMore, hSome] using ih hWalk
  | _ => cases hWalk

/-- A file that is written where no directory and no link is leaves all ways. -/
theorem keepsWays_put_file (hPlace : place ≠ []) (hDirectory : t.get? place ≠ some .directory)
    (hLink : ∀ target, t.get? place ≠ some (.link target)) (content : Bytes)
    (executable : Bool) : t.KeepsWays (t.put place (.file content executable)) := by
  have hOther : ∀ {found entry}, t.get? found = some entry → t.get? place ≠ some entry →
      (t.put place (.file content executable)).get? found = some entry := by
    intro found entry hFound hPlain
    rw [get?_put _ _ _ _ hPlace, if_neg (by rintro rfl; exact hPlain hFound), hFound]
  exact ⟨fun _ hFound => hOther hFound hDirectory, fun _ target hFound => hOther hFound (hLink target)⟩

/-- A location that is a directory, together with all that it is in. -/
def Grounded (t : FileTree) (place : Location) : Prop :=
  ∀ above, above <+: place → t.get? above = some .directory

theorem grounded_nil (t : FileTree) : t.Grounded [] := by
  intro above hAbove
  rw [List.prefix_nil.mp hAbove]
  rfl

theorem Grounded.dropLast (h : t.Grounded place) : t.Grounded place.dropLast :=
  fun above hAbove => h above (hAbove.trans (List.dropLast_prefix place))

theorem Grounded.append (h : t.Grounded place) {name : String}
    (hNext : t.get? (place ++ [name]) = some .directory) : t.Grounded (place ++ [name]) := by
  intro above hAbove
  rcases List.prefix_concat_iff.mp hAbove with rfl | hAbove
  · exact hNext
  · exact h above hAbove

/-- No resolution that follows links ends at one, if it starts at a directory. -/
theorem entry_ne_link_of_walk (hPlace : t.Grounded place) (hPurpose : purpose ≠ .entry)
    (hWalk : t.walk purpose links place steps = .ok spot) (target : Path) :
    spot.entry ≠ some (.link target) := by
  fun_induction walk t purpose links place steps with
  | case1 links place =>
      obtain rfl := Except.ok.inj hWalk
      simp [hPlace place List.prefix_rfl]
  | case2 links place rest ih => exact ih hPlace hWalk
  | case3 links place rest ih => exact ih hPlace hWalk
  | case4 links place rest ih => exact ih hPlace.dropLast hWalk
  | case7 links place name rest hWriting hShort next hNone hLast =>
      obtain rfl := Except.ok.inj hWalk
      simp
  | case9 links place name rest hWriting hShort next hDirectory ih =>
      exact ih (hPlace.append hDirectory) hWalk
  | case10 links place name rest hWriting hShort next content executable hFile hLast =>
      obtain rfl := Except.ok.inj hWalk
      simp
  | case12 links place name rest hWriting hShort next target hLink hLast =>
      simp [hPurpose] at hLast
  | case15 place name rest hWriting hShort next target hLink hMore hSome links ih =>
      refine ih ?_ hWalk
      split_ifs
      · exact grounded_nil t
      · exact hPlace
  | _ => cases hWalk

end FileTree

namespace FileSystem

variable {fs : FileSystem} {p : Path} {spot : Spot}

/-- A file system as a program finds it: it works in a directory of the tree, and devices stand in
the place of files. -/
structure Sound (fs : FileSystem) : Prop where
  home : fs.tree.Grounded fs.workingDirectory
  device : ∀ place, (fs.devices.lookup place).isSome = true →
    ∃ content executable, fs.tree.get? place = some (.file content executable)

theorem Sound.of_alike {site : Site} {t other : FileTree} (h : Sound ⟨site, t⟩)
    (hSame : ∀ place, t.get? place = other.get? place) : Sound ⟨site, other⟩ where
  home := fun above hAbove => hSame above ▸ h.home above hAbove
  device := fun place hDevice => hSame place ▸ h.device place hDevice

/-- A path through which a file can be written leads to the place of that file. -/
theorem locate_target_of_writable (hWritable : fs.writable p = .ok spot) :
    fs.locate .target p = .ok spot := by
  obtain ⟨hReadable, hShort, hText, hWalk⟩ := walk_of_writable hWritable
  rw [locate_eq_walk .target hReadable hShort hText]
  exact FileTree.walk_target_of_writing hWalk

namespace Sound

variable (h : fs.Sound) (hWritable : fs.writable p = .ok spot)

include h hWritable

theorem entry_ne_link (target : Path) : spot.entry ≠ some (.link target) := by
  obtain ⟨-, -, -, hWalk⟩ := walk_of_writable hWritable
  refine FileTree.entry_ne_link_of_walk ?_ (by simp) hWalk target
  unfold start
  split_ifs
  · exact FileTree.grounded_nil fs.tree
  · exact h.home

/-- The device to which a path leads is the one in the place where a file would be written. -/
theorem device?_eq : fs.device? p = fs.devices.lookup spot.place := by
  have hLocate := locate_target_of_writable hWritable
  have hEntry := entry_of_writable hWritable
  obtain ⟨-, hPlain⟩ := locate_of_writable hWritable
  have hLink := h.entry_ne_link hWritable
  obtain ⟨place, entry⟩ := spot
  cases entry with
  | none =>
      -- No device stands where nothing is.
      cases hDevice : fs.devices.lookup place with
      | none => simp [device?, hLocate]
      | some device =>
          obtain ⟨content, executable, hFile⟩ := h.device place (by rw [hDevice]; rfl)
          cases hEntry.trans hFile
  | some entry =>
      cases entry with
      | directory => exact absurd rfl hPlain
      | file content executable => simp [device?, hLocate]
      | link target => exact absurd rfl (hLink target)

/-- What is written through a path that leads to no device is put in one place. -/
theorem write_eq_put (hDevice : fs.device? p = none) (content : Bytes) :
    ∃ executable, fs.write p content =
      .ok (fs.tree.put spot.place (.file content executable)) := by
  have hLookup := (h.device?_eq hWritable).symm.trans hDevice
  have hFill : ∀ executable, fs.fill spot content executable =
      .ok (fs.tree.put spot.place (.file content executable)) := by
    intro executable
    rw [fill, hLookup]
    cases spot.entry <;> rfl
  simp only [write, hWritable, bind, Except.bind, hFill]
  exact ⟨_, rfl⟩

/-- A device takes what is written to it, unless it has no room, and no file changes. -/
theorem write_eq_of_device {device : Device} (hDevice : fs.device? p = some device)
    (content : Bytes) : fs.write p content =
      if device = .full ∧ content ≠ [] then .error .noSpace else .ok fs.tree := by
  have hLookup := (h.device?_eq hWritable).symm.trans hDevice
  obtain ⟨_, _, hFile⟩ := h.device spot.place (by rw [hLookup]; rfl)
  have hEntry := (entry_of_writable hWritable).trans hFile
  cases device <;> cases content <;>
    simp [write, hWritable, bind, Except.bind, fill, hLookup, hEntry]

/-- What has been put in the place where a path is written is read through it. -/
theorem read_put (hDevice : fs.device? p = none) (content : Bytes) (executable : Bool) :
    FileSystem.read ⟨fs.toSite, fs.tree.put spot.place (.file content executable)⟩ p =
      .ok content := by
  have hLookup := (h.device?_eq hWritable).symm.trans hDevice
  obtain ⟨-, hPlain⟩ := locate_of_writable hWritable
  have hLink := h.entry_ne_link hWritable
  have hPlace := place_ne_nil_of_writable hWritable
  obtain ⟨hReadable, hShort, hText, hWalk⟩ := walk_of_writable hWritable
  have hKeeps : fs.tree.KeepsWays (fs.tree.put spot.place (.file content executable)) := by
    rw [entry_of_writable hWritable] at hPlain hLink
    exact FileTree.keepsWays_put_file hPlace hPlain hLink content executable
  have hFile : (fs.tree.put spot.place (.file content executable)).get? spot.place =
      some (.file content executable) := by
    rw [FileTree.get?_put _ _ _ _ hPlace, if_pos rfl]
  have hRead : (⟨fs.toSite, fs.tree.put spot.place (.file content executable)⟩ : FileSystem).locate
      .target p = .ok ⟨spot.place, some (.file content executable)⟩ := by
    rw [locate_eq_walk .target hReadable hShort hText]
    exact FileTree.walk_of_file hKeeps (FileTree.walk_target_of_writing hWalk) hLink hFile
  simp [read, hRead, hLookup, bind, Except.bind, pure, Except.pure]

end Sound

end FileSystem

end CallbackWeave

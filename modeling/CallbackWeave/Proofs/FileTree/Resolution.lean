import CallbackWeave.FileTree.FileSystem
import Mathlib.Data.List.Basic

/-!
Resolution of paths, split at the last name. The steps before it lead to a directory, whatever links
they follow; what the last name stands for is then a matter of that directory alone. Taking entries
out of a tree makes no path lead anywhere that it did not lead before.
-/

namespace CallbackWeave.FileTree

/-- The location to which steps lead that other steps follow, and the number of links that may
still be followed there. -/
def descend (t : FileTree) (links : Nat) (place : Location) :
    List Step → Except IoError (Location × Nat)
  | [] => .ok (place, links)
  | .here :: rest | .within :: rest => descend t links place rest
  | .up :: rest => descend t links place.dropLast rest
  | .into name :: rest =>
    if name.utf8ByteSize > Path.nameLimit then .error .nameTooLong
    else
      match t.get? (place ++ [name]) with
      | none => .error .noSuchEntry
      | some .directory => descend t links (place ++ [name]) rest
      | some (.file _ _) => .error .notDirectory
      | some (.link target) =>
        if target.text.isEmpty then .error .noSuchEntry
        else
          match links with
          | 0 => .error .tooManyLinks
          | links + 1 =>
            descend t links (if target.isAbsolute then [] else place) (target.steps ++ rest)
termination_by steps => (links, steps.length)

/-- Steps are taken by going down the first of them and taking the others from there. -/
theorem walk_append (t : FileTree) (purpose : Purpose) (links : Nat) (place : Location)
    (before after : List Step) (hAfter : after ≠ [])
    (hWriting : purpose = .writing → after ≠ [.within]) :
    t.walk purpose links place (before ++ after) =
      match t.descend links place before with
      | .ok (reached, left) => t.walk purpose left reached after
      | .error cause => .error cause := by
  have hMore : ∀ rest : List Step, (rest ++ after).isEmpty = false := by simp [hAfter]
  have hWithin : ∀ rest : List Step, ¬ (purpose = .writing ∧ rest ++ after = [.within]) := by
    rintro rest ⟨hPurpose, hOne⟩
    rcases List.append_eq_singleton_iff.mp hOne with ⟨-, hSame⟩ | ⟨-, hNone⟩
    · exact hWriting hPurpose hSame
    · exact hAfter hNone
  fun_induction descend t links place before with
  | case1 => rfl
  | case2 links place rest ih => rw [List.cons_append, walk, ih]
  | case3 links place rest ih => rw [List.cons_append, walk, ih]
  | case4 links place rest ih => rw [List.cons_append, walk, ih]
  | case5 links place name rest hLong =>
      rw [List.cons_append, walk, if_neg (hWithin rest), if_pos hLong]
  | case6 links place name rest hShort hEntry =>
      simp [walk, hWithin, hShort, hEntry, hMore]
  | case7 links place name rest hShort hEntry ih =>
      simp [walk, hWithin, hShort, hEntry, ih]
  | case8 links place name rest hShort content executable hEntry =>
      simp [walk, hWithin, hShort, hEntry, hMore]
  | case9 links place name rest hShort target hEntry hEmpty =>
      simp [walk, hWithin, hShort, hEntry, hMore, hEmpty]
  | case10 place name rest hShort target hEntry hSome =>
      simp [walk, hWithin, hShort, hEntry, hMore, hSome]
  | case11 place name rest hShort target hEntry hSome links ih =>
      simpa [walk, hWithin, hShort, hEntry, hMore, hSome] using ih

/-- Every directory and every link of a tree stands in another one too. -/
structure KeepsWays (t other : FileTree) : Prop where
  directory : ∀ place, t.get? place = some .directory → other.get? place = some .directory
  link : ∀ place target, t.get? place = some (.link target) →
    other.get? place = some (.link target)

theorem get?_of_get?_erase {t : FileTree} {place other : Location} {entry : Entry}
    (hPlace : place ≠ []) (hEntry : (t.erase place).get? other = some entry) :
    t.get? other = some entry := by
  rw [get?_erase t place other hPlace] at hEntry
  split_ifs at hEntry
  exact hEntry

theorem keepsWays_of_erase {t : FileTree} {place : Location} (hPlace : place ≠ []) :
    (t.erase place).KeepsWays t :=
  ⟨fun _ hEntry => get?_of_get?_erase hPlace hEntry,
    fun _ _ hEntry => get?_of_get?_erase hPlace hEntry⟩

/-- Going down depends on directories and links only, and on none that is not there. -/
theorem descend_mono {t other : FileTree} (hKeeps : t.KeepsWays other) {links left : Nat}
    {place reached : Location} {steps : List Step}
    (hDescend : t.descend links place steps = .ok (reached, left)) :
    other.descend links place steps = .ok (reached, left) := by
  fun_induction descend t links place steps with
  | case1 => simpa [descend] using hDescend
  | case2 links place rest ih => rw [descend, ih hDescend]
  | case3 links place rest ih => rw [descend, ih hDescend]
  | case4 links place rest ih => rw [descend, ih hDescend]
  | case7 links place name rest hShort hEntry ih =>
      simp [descend, hShort, hKeeps.directory _ hEntry, ih hDescend]
  | case11 place name rest hShort target hEntry hSome links ih =>
      simpa [descend, hShort, hKeeps.link _ _ hEntry, hSome] using ih hDescend
  | _ => cases hDescend

/-- What a path leads to in a tree with fewer entries it also leads to in the tree itself. -/
theorem walk_mono {t larger : FileTree}
    (hKeeps : ∀ place entry, t.get? place = some entry → larger.get? place = some entry)
    {links : Nat} {place reached : Location} {steps : List Step} {entry : Entry}
    (hWalk : t.walk .target links place steps = .ok ⟨reached, some entry⟩) :
    larger.walk .target links place steps = .ok ⟨reached, some entry⟩ := by
  generalize hPurpose : Purpose.target = purpose at hWalk ⊢
  have hTarget : ¬ purpose = .writing ∧ (purpose == Purpose.entry) = false := by
    subst hPurpose
    exact ⟨by simp, rfl⟩
  fun_induction walk t purpose links place steps with
  | case1 links place =>
      obtain ⟨rfl, hEntry⟩ : place = reached ∧ t.get? place = some entry := by
        simpa using hWalk
      rw [walk, hKeeps _ _ hEntry]
  | case2 links place rest ih => rw [walk, ih hWalk]
  | case3 links place rest ih => rw [walk, ih hWalk]
  | case4 links place rest ih => rw [walk, ih hWalk]
  | case9 links place name rest hWriting hShort next hEntry ih =>
      simp [walk, hTarget, hShort, next, hKeeps _ _ hEntry, ih hWalk]
  | case10 links place name rest hWriting hShort next content executable hEntry hLast =>
      simpa [walk, hTarget, hShort, next, hKeeps _ _ hEntry, hLast] using hWalk
  | case7 => simp at hWalk
  | case12 links place name rest hWriting hShort next target hEntry hLast =>
      simp [hTarget] at hLast
  | case15 place name rest hWriting hShort next target hEntry hLast hSome links ih =>
      simpa [walk, hTarget, hShort, next, hKeeps _ _ hEntry, hLast, hSome] using ih hWalk
  | _ => cases hWalk

/-- A resolution tells what stands at the location at which it ends. -/
theorem entry_of_walk {t : FileTree} {purpose : Purpose} {links : Nat} {place : Location}
    {steps : List Step} {spot : Spot} (hWalk : t.walk purpose links place steps = .ok spot) :
    spot.entry = t.get? spot.place := by
  fun_induction walk t purpose links place steps with
  | case1 links place =>
      obtain rfl := Except.ok.inj hWalk
      rfl
  | case2 links place rest ih => exact ih hWalk
  | case3 links place rest ih => exact ih hWalk
  | case4 links place rest ih => exact ih hWalk
  | case7 links place name rest hWriting hShort next hEntry hLast =>
      obtain rfl := Except.ok.inj hWalk
      exact hEntry.symm
  | case9 links place name rest hWriting hShort next hEntry ih => exact ih hWalk
  | case10 links place name rest hWriting hShort next content executable hEntry hLast =>
      obtain rfl := Except.ok.inj hWalk
      exact hEntry.symm
  | case12 links place name rest hWriting hShort next target hEntry hLast =>
      obtain rfl := Except.ok.inj hWalk
      exact hEntry.symm
  | case15 place name rest hWriting hShort next target hEntry hLast hSome links ih =>
      exact ih hWalk
  | _ => cases hWalk

end CallbackWeave.FileTree

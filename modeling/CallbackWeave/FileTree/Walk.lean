import CallbackWeave.FileTree.Basic
import CallbackWeave.IoError

/-!
Resolution of paths in a tree, as the operating system does it: from the root or from a working
directory, one step at a time, links followed where they stand and `..` taken after that. The
number of links that one resolution may follow is bounded, so that it ends in every tree.
-/

namespace CallbackWeave

/-- One step of a resolution. -/
inductive Step where
  /-- Stay, which only a directory allows. -/
  | here
  /-- Go to the directory above; the root is above itself. -/
  | up
  /-- Go to an entry of the directory. -/
  | into (name : String)
  /-- Stay, because of the separator at the end of a path. Like `here` it asks for a directory. -/
  | within
deriving DecidableEq, Repr

/-- A stretch of a path between separators as a step; an empty one is none. -/
def Step.ofStretch? : List Char → Option Step
  | [] => none
  | ['.'] => some .here
  | ['.', '.'] => some .up
  | s => some (.into (String.ofList s))

namespace Path

/-- A path that has a separator at its end. -/
def endsInSeparator (p : Path) : Bool := p.text.toList.getLast? == some '/'

/-- The steps of a path. -/
def steps (p : Path) : List Step :=
  p.stretches.filterMap Step.ofStretch? ++ if p.endsInSeparator then [.within] else []

/-- The bytes that a path takes up. -/
def byteLength (p : Path) : Nat := p.text.utf8ByteSize

/-- The most bytes that a path may have. -/
def lengthLimit : Nat := 4095

/-- The most bytes that the name of an entry may have. -/
def nameLimit : Nat := 255

end Path

/-- Where a resolution ends: a location, and what stands there. Nothing stands at a location whose
directory exists and has no entry of the last name. -/
structure Spot where
  place : Location
  entry : Option Entry
deriving DecidableEq, Repr

namespace FileTree

/-- The most links that one resolution may follow. -/
def linkLimit : Nat := 40

/-- What a resolution is for, which decides how its last step is taken. -/
inductive Purpose where
  /-- What a path leads to. -/
  | target
  /-- What a path names, which may be a link. -/
  | entry
  /-- Where a file is to be written. A separator after its name is refused whatever is there. -/
  | writing
deriving DecidableEq, Repr

/-- Takes steps from a directory. `links` is the number of links that may still be followed. -/
def walk (t : FileTree) (purpose : Purpose) (links : Nat) (place : Location) :
    List Step → Except IoError Spot
  | [] => .ok ⟨place, t.get? place⟩
  | .here :: rest | .within :: rest => walk t purpose links place rest
  | .up :: rest => walk t purpose links place.dropLast rest
  | .into name :: rest =>
    if purpose = .writing ∧ rest = [.within] then .error .isDirectory
    else if name.utf8ByteSize > Path.nameLimit then .error .nameTooLong
    else
      let next := place ++ [name]
      match t.get? next with
      | none => if rest.isEmpty then .ok ⟨next, none⟩ else .error .noSuchEntry
      | some .directory => walk t purpose links next rest
      | some (.file content executable) =>
        if rest.isEmpty then .ok ⟨next, some (.file content executable)⟩
        else .error .notDirectory
      | some (.link target) =>
        if rest.isEmpty && purpose == .entry then .ok ⟨next, some (.link target)⟩
        else if target.text.isEmpty then .error .noSuchEntry
        else
          match links with
          | 0 => .error .tooManyLinks
          | links + 1 =>
            walk t purpose links (if target.isAbsolute then [] else place) (target.steps ++ rest)
termination_by steps => (links, steps.length)

end FileTree

end CallbackWeave

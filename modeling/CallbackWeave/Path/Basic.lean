/-!
Paths as they are written, and their components. Two spellings of a path have equal components
when they differ only in repeated or trailing separators and in `.` parts after the first one;
a leading `.` and every `..` are kept, since removing them needs more than the text.
-/

namespace CallbackWeave

/-- A path as written. -/
structure Path where
  text : String
deriving DecidableEq, Repr, Inhabited

/-- A part of a path. -/
inductive Component where
  /-- The separator at the front of an absolute path. -/
  | root
  /-- A `.` at the front of a relative path. -/
  | here
  /-- A `..`. -/
  | up
  /-- The name of an entry of a directory. -/
  | name (text : String)
deriving DecidableEq, Repr

namespace Component

/-- A component as it is written. -/
def text : Component → List Char
  | root => ['/']
  | here => ['.']
  | up => ['.', '.']
  | name s => s.toList

/-- A stretch of a path between separators; an empty one and a `.` are no component. -/
def ofStretch? : List Char → Option Component
  | [] => none
  | ['.'] => none
  | ['.', '.'] => some up
  | s => some (name (String.ofList s))

/-- Components joined by separators. -/
def join : List Component → List Char
  | [] => []
  | root :: rest => '/' :: List.intercalate ['/'] (rest.map text)
  | components => List.intercalate ['/'] (components.map text)

end Component

namespace Path

/-- A path that starts at the root. -/
def isAbsolute (p : Path) : Bool := p.text.toList.head? == some '/'

/-- The stretches of a path between its separators. -/
def stretches (p : Path) : List (List Char) := p.text.toList.splitOn '/'

/-- The components of a path. -/
def components (p : Path) : List Component :=
  let rest := p.stretches.filterMap Component.ofStretch?
  if p.isAbsolute then .root :: rest
  else if p.stretches.head? = some ['.'] then .here :: rest
  else rest

/-- The path that has the given components. -/
def ofComponents (components : List Component) : Path :=
  ⟨String.ofList (Component.join components)⟩

/-- `p` as seen from `base`: an absolute path stands for itself, and any other is appended. -/
def join (base p : Path) : Path :=
  if p.isAbsolute then p
  else if base.text.isEmpty || base.text.toList.getLast? == some '/' then ⟨base.text ++ p.text⟩
  else ⟨base.text ++ "/" ++ p.text⟩

/-- The name at the end of a path. A path that ends in `..` or at the root has none. -/
def fileName? (p : Path) : Option String :=
  match p.components.getLast? with
  | some (.name s) => some s
  | _ => none

/-- The path without its last component; a path that has nothing but a root has no parent. -/
def parent? (p : Path) : Option Path :=
  match p.components.getLast? with
  | none | some .root => none
  | some _ => some (ofComponents p.components.dropLast)

/-- A name cut at its last point: what stands before it and after it. The point at the front of
a hidden name does not cut it. -/
def splitName (name : List Char) : List Char × Option (List Char) :=
  let after := (name.reverse.takeWhile (· ≠ '.')).reverse
  let before := name.take (name.length - after.length - 1)
  if after.length = name.length ∨ before.isEmpty then (name, none) else (before, some after)

/-- The name at the end of a path without its extension. -/
def stem? (p : Path) : Option String :=
  p.fileName?.map fun name => String.ofList (splitName name.toList).1

/-- The part of the name at the end of a path after its last point. -/
def extension? (p : Path) : Option String :=
  p.fileName?.bind fun name => (splitName name.toList).2.map String.ofList

end Path

end CallbackWeave

import CallbackWeave.Path.Basic

/-!
Normal paths: `.` and `..` folded away by the text alone, without a look at any file. What is
left of a path is whether it is absolute, how many directories it climbs, and the names it then
goes down.
-/

namespace CallbackWeave

/-- A path folded as far as its text allows. An absolute one climbs no directory, since there is
nothing above the root. -/
structure NormalPath where
  absolute : Bool
  climbs : Nat
  names : List String
deriving DecidableEq, Repr

namespace NormalPath

/-- The path that stays where it is. -/
def empty : NormalPath := ⟨false, 0, []⟩

/-- One component more: `..` takes back the name before it, is dropped at the root, and climbs
where there is neither. -/
def push (n : NormalPath) : Component → NormalPath
  | .root => ⟨true, 0, []⟩
  | .here => n
  | .up =>
    if n.names ≠ [] then { n with names := n.names.dropLast }
    else if n.absolute then n
    else { n with climbs := n.climbs + 1 }
  | .name s => { n with names := n.names ++ [s] }

/-- Folds components from the front. -/
def ofComponents (components : List Component) : NormalPath := components.foldl push empty

/-- The components of a normal path; the path that stays where it is has the component `.`. -/
def components (n : NormalPath) : List Component :=
  if n.absolute then .root :: n.names.map .name
  else if n.climbs = 0 ∧ n.names = [] then [.here]
  else List.replicate n.climbs .up ++ n.names.map .name

/-- A normal path as text. -/
def toPath (n : NormalPath) : Path := Path.ofComponents n.components

end NormalPath

namespace Path

/-- The normal form of a path. -/
def normal (p : Path) : NormalPath := NormalPath.ofComponents p.components

/-- A path with `.` and `..` folded away. -/
def normalize (p : Path) : Path := p.normal.toPath

/-- A path as seen from a directory, folded. -/
def resolveIn (base p : Path) : Path :=
  if p.isAbsolute then p.normalize else (base.join p).normalize

/-- Whether a path lies inside a directory or is that directory, compared by components after
folding both. -/
def isInside (p directory : Path) : Bool :=
  directory.normal.components.isPrefixOf p.normal.components

/-- Whether two paths have the same components. -/
def agrees (p q : Path) : Bool := p.components = q.components

end Path

end CallbackWeave

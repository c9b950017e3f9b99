import CallbackWeave.FileTree.Walk
import CallbackWeave.Path.Normal

/-!
A file system as one program sees it: a tree, the working directory from which relative paths are
resolved, and the devices that stand in the place of files. The operations are those the pipeline
needs; each either gives the changed tree or the cause for which it was refused.
-/

namespace CallbackWeave

/-- What stands in the place of a file and keeps nothing of what is written to it. -/
inductive Device where
  /-- It is always empty. -/
  | null
  /-- It has no room. -/
  | full
  /-- There is always more to be read of it. -/
  | zero
  /-- The input of the program, the output, and the messages. -/
  | input
  | output
  | messages
deriving DecidableEq, Repr

/-- What a program sees besides the tree. -/
structure Site where
  workingDirectory : Location
  devices : List (Location × Device)
deriving Repr

/-- A tree as seen from a site. -/
structure FileSystem extends Site where
  tree : FileTree
deriving Repr

namespace FileSystem

/-- The path of the working directory. -/
def workingPath (fs : FileSystem) : Path :=
  Path.ofComponents (.root :: fs.workingDirectory.map .name)

/-- A path made absolute against the working directory and folded. -/
def absolutize (fs : FileSystem) (p : Path) : Path :=
  if p.isAbsolute then p.normalize else (fs.workingPath.join p).normalize

/-- Resolves a path of any length. -/
def resolve (fs : FileSystem) (purpose : FileTree.Purpose) (p : Path) : Except IoError Spot :=
  if p.text.toList.contains '\x00' then .error .nulInPath
  else if p.text.isEmpty then .error .noSuchEntry
  else
    fs.tree.walk purpose FileTree.linkLimit (if p.isAbsolute then [] else fs.workingDirectory)
      p.steps

/-- Resolves a path as an operation on files does, which refuses one that is too long. -/
def locate (fs : FileSystem) (purpose : FileTree.Purpose) (p : Path) : Except IoError Spot :=
  if !p.text.toList.contains '\x00' && p.byteLength > Path.lengthLimit then .error .nameTooLong
  else fs.resolve purpose p

/-- What a path leads to, links followed. -/
def entry? (fs : FileSystem) (p : Path) : Option Entry :=
  match fs.locate .target p with
  | .ok spot => spot.entry
  | .error _ => none

/-- The device that a path leads to. -/
def device? (fs : FileSystem) (p : Path) : Option Device :=
  match fs.locate .target p with
  | .ok ⟨place, some (.file _ _)⟩ => fs.devices.lookup place
  | _ => none

/-- Whether a path leads to anything. -/
def holds (fs : FileSystem) (p : Path) : Bool := (fs.entry? p).isSome

/-- Whether a path leads to a file, which no device is. -/
def isFile (fs : FileSystem) (p : Path) : Bool :=
  match fs.locate .target p with
  | .ok ⟨place, some (.file _ _)⟩ => (fs.devices.lookup place).isNone
  | _ => false

/-- Whether a path leads to a directory. -/
def isDirectory (fs : FileSystem) (p : Path) : Bool :=
  match fs.entry? p with
  | some .directory => true
  | _ => false

/-- The location that a path leads to, if anything is there. -/
def canonical? (fs : FileSystem) (p : Path) : Option Location :=
  match fs.resolve .target p with
  | .ok ⟨place, some _⟩ => some place
  | _ => none

/-- Whether two paths lead to the same existing entry. -/
def sameFile (fs : FileSystem) (p q : Path) : Bool :=
  match fs.canonical? p, fs.canonical? q with
  | some a, some b => a = b
  | _, _ => false

/-- The content of a file; a device has none. -/
def read (fs : FileSystem) (p : Path) : Except IoError Bytes := do
  let spot ← fs.locate .target p
  match spot.entry with
  | some (.file content _) => pure (if (fs.devices.lookup spot.place).isSome then [] else content)
  | some .directory => throw .isDirectory
  | _ => throw .noSuchEntry

/-- The content of a text file. -/
def readText (fs : FileSystem) (p : Path) : Except IoError String := do
  match Utf8.decode? (← fs.read p) with
  | some text => pure text
  | none => throw .notText

/-- The location at which a file can be written through a path. -/
def writable (fs : FileSystem) (p : Path) : Except IoError Spot := do
  let spot ← fs.locate .writing p
  match spot.entry with
  | some .directory => throw .isDirectory
  | _ => pure spot

/-- The tree after content has been put into the file at a spot. A file that exists keeps its mode,
and a device takes what is written to it without a change. -/
def fill (fs : FileSystem) (spot : Spot) (content : Bytes) (executable : Bool) :
    Except IoError FileTree :=
  match spot.entry, fs.devices.lookup spot.place with
  | some _, some .full => if content.isEmpty then .ok fs.tree else .error .noSpace
  | some _, some _ => .ok fs.tree
  | _, _ => .ok (fs.tree.put spot.place (.file content executable))

/-- The tree after a file has been written. -/
def write (fs : FileSystem) (p : Path) (content : Bytes) : Except IoError FileTree := do
  let spot ← fs.writable p
  let executable := match spot.entry with
    | some (.file _ executable) => executable
    | _ => false
  fs.fill spot content executable

/-- The tree after a file has been copied together with its mode. A file copied onto itself is
left empty, since the target is emptied before the source is read. -/
def copy (fs : FileSystem) (source target : Path) : Except IoError FileTree := do
  let found ← fs.locate .target source
  match found.entry, fs.devices.lookup found.place with
  | none, _ => throw .noSuchEntry
  | some (.file content executable), none =>
    let spot ← fs.writable target
    fs.fill spot (if spot.place = found.place then [] else content) executable
  | some _, _ => throw .notRegular

/-- The path of an entry cut before the name at its end, which a separator may follow. A path that
ends in another way names no entry of a directory. -/
def cutName (p : Path) : Option (List Step × String) :=
  match (p.steps.reverse.dropWhile (· = .within)) with
  | .into name :: above => some (above.reverse, name)
  | _ => none

/-- The directory in which the name at the end of a path stands, and the name. `refusal` is what is
told of a path that leads to a directory in another way. -/
def slot (fs : FileSystem) (p : Path) (refusal : IoError) :
    Except IoError (Location × String) := do
  if p.text.toList.contains '\x00' then throw .nulInPath
  if p.text.isEmpty then throw .noSuchEntry
  if p.byteLength > Path.lengthLimit then throw .nameTooLong
  let start := if p.isAbsolute then [] else fs.workingDirectory
  match cutName p with
  | some (above, name) =>
    let spot ← fs.tree.walk .target FileTree.linkLimit start (above ++ [.within])
    if name.utf8ByteSize > Path.nameLimit then throw .nameTooLong else pure (spot.place, name)
  | none =>
    let spot ← fs.tree.walk .target FileTree.linkLimit start (p.steps.reverse.drop 1).reverse
    match spot.entry with
    | some .directory => throw refusal
    | some _ => throw .notDirectory
    | none => throw .noSuchEntry

/-- The tree after a file, or a link itself, has been removed. -/
def remove (fs : FileSystem) (p : Path) : Except IoError FileTree := do
  let (directory, name) ← fs.slot p .isDirectory
  let place := directory ++ [name]
  match fs.tree.get? place with
  | none => throw .noSuchEntry
  | some .directory => throw .isDirectory
  | some _ => if p.endsInSeparator then throw .notDirectory else pure (fs.tree.erase place)

/-- The tree after one directory has been made. -/
def makeDirectory (fs : FileSystem) (p : Path) : Except IoError FileTree := do
  let (directory, name) ← fs.slot p .alreadyExists
  let place := directory ++ [name]
  match fs.tree.get? directory, fs.tree.get? place with
  | none, _ => throw .noSuchEntry
  | some _, none => pure (fs.tree.put place .directory)
  | some _, some _ => throw .alreadyExists

/-- A path and those of the directories on the way to it, nearest to the path first. -/
def trail (p : Path) : List Path :=
  p :: ((List.range p.components.length).reverse.drop 1).filterMap fun n =>
    match p.components.take (n + 1) with
    | [.root] => none
    | components => some (Path.ofComponents components)

/-- The tree after the first of some paths has been made a directory, if need be after those behind
it, each of which is the way to the one before. -/
def makeTrail (fs : FileSystem) : List Path → Except IoError FileTree
  | [] => .ok fs.tree
  | p :: above =>
    let made (tree : FileTree) : Except IoError FileTree :=
      let fs := { fs with tree := tree }
      match fs.makeDirectory p with
      | .ok tree => .ok tree
      | .error cause =>
        if cause = .alreadyExists ∧ fs.isDirectory p then .ok tree else .error cause
    match made fs.tree with
    | .error .noSuchEntry =>
      match makeTrail fs above with
      | .ok tree => made tree
      | .error cause => .error cause
    | result => result

/-- The tree after a directory has been made together with those on the way to it. -/
def makeDirectories (fs : FileSystem) (p : Path) : Except IoError FileTree :=
  if p.text.isEmpty then .ok fs.tree else fs.makeTrail (trail p)

end FileSystem

end CallbackWeave

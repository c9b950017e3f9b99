import CallbackWeave.FileTree.FileSystem
import CallbackWeave.Host.Octets

/-!
Open files. Programs read and write through numbers that stand for streams; several numbers, also
of different programs, may stand for one stream and then share its position. A host is a tree with
all its streams, and a context is what one program sees of it.
-/

namespace CallbackWeave

/-- An open file. -/
inductive Stream where
  /-- A file of the tree; what is read or written next lies at an offset. -/
  | stored (place : Location) (offset : Nat) (appends : Bool)
  /-- What has been written and not yet been read; the second part is newer, in reverse. -/
  | pipe (front : Octets) (back : List Octets)
  | device (kind : Device)
  | directory

/-- The tree with all open files, and what programs have sent to each other. -/
structure Host where
  tree : FileTree
  streams : Array Stream
  /-- The signals on their way, each with the number of the program to which it is sent. -/
  signals : List (Nat × Nat)
  /-- The number of the last program that was started. -/
  lastProgram : Nat
  /-- Why something could not be written, until somebody asks. -/
  writeFault : Option IoError

namespace Host

/-- A tree without open files. -/
def ofTree (tree : FileTree) : Host := ⟨tree, #[], [], 4241, none⟩

/-- A host with one more stream, and the index of that stream. -/
def addStream (h : Host) (stream : Stream) : Nat × Host :=
  (h.streams.size, { h with streams := h.streams.push stream })

/-- The stream at an index. -/
def stream (h : Host) (index : Nat) : Stream := h.streams[index]?.getD (.pipe [] [])

/-- A host with another stream at an index. -/
def setStream (h : Host) (index : Nat) (stream : Stream) : Host :=
  { h with streams := h.streams.setIfInBounds index stream }

/-- The content of the file at a location. -/
def contentAt (h : Host) (place : Location) : Octets :=
  match h.tree.get? place with
  | some (.file content _) => .ofBytes content
  | _ => []

/-- A host with other content in the file at a location. -/
def setContent (h : Host) (place : Location) (content : Octets) : Host :=
  match h.tree.get? place with
  | some (.file _ executable) =>
    { h with tree := h.tree.put place (.file content.toBytes executable) }
  | _ => h

/-- How much is read of what has no end. -/
def endless : Nat := Nat.pow 2 20

/-- What can still be read from a stream, and the stream read to its end. -/
def readAll (h : Host) (index : Nat) : Except IoError Octets × Host :=
  match h.stream index with
  | .stored place offset appends =>
    let content := h.contentAt place
    (.ok (content.drop offset), h.setStream index (.stored place (max offset content.length) appends))
  | .pipe front back => (.ok (front ++ back.reverse.flatten), h.setStream index (.pipe [] []))
  | .device .zero => (.ok (List.replicate endless '\x00'), h)
  | .device _ => (.ok [], h)
  | .directory => (.error .isDirectory, h)

/-- Puts back what has been read from a stream and was not used. -/
def putBack (h : Host) (index : Nat) (unused : Octets) : Host :=
  match h.stream index with
  | .stored place offset appends =>
    h.setStream index (.stored place (offset - unused.length) appends)
  | .pipe front back => h.setStream index (.pipe (unused ++ front) back)
  | _ => h

/-- Writes to a stream. -/
def write (h : Host) (index : Nat) (text : Octets) : Except IoError Unit × Host :=
  match h.stream index with
  | .stored place offset appends =>
    let content := h.contentAt place
    let start := if appends then content.length else offset
    let front := content.take start ++ List.replicate (start - content.length) '\x00'
    let written := front ++ text ++ content.drop (start + text.length)
    (.ok (), (h.setContent place written).setStream index
      (.stored place (start + text.length) appends))
  | .pipe front back => (.ok (), h.setStream index (.pipe front (text :: back)))
  | .device .full => (if text.isEmpty then .ok () else .error .noSpace, h)
  | .device _ => (.ok (), h)
  | .directory => (.error (.system 9), h)

end Host

/-- What one program sees of a host. -/
structure Context where
  site : Site
  /-- The streams for which the numbers of the program stand. -/
  descriptors : List (Nat × Nat)
  environment : List (Octets × Octets)
  /-- The name under which the program was called. -/
  name : Octets
  /-- The number of the program, and that of the one that started it. -/
  program : Nat
  parent : Nat

/-- How a file is opened. -/
inductive OpenMode where
  | read
  /-- The file is made if need be, and emptied. -/
  | write
  | append
  /-- The file is made if need be, and kept. -/
  | both
deriving DecidableEq, Repr

namespace Context

/-- The files as a program sees them. -/
def files (c : Context) (h : Host) : FileSystem := ⟨c.site, h.tree⟩

/-- The number that a device stands for. -/
def numberOf? : Device → Option Nat
  | .input => some 0
  | .output => some 1
  | .messages => some 2
  | _ => none

/-- Opens what is at a location of the tree. -/
def openPlace (c : Context) (h : Host) (mode : OpenMode) (place : Location) (entry : Option Entry) :
    Except IoError (Nat × Host) :=
  match entry, mode with
  | some .directory, .read => .ok (h.addStream .directory)
  | some .directory, _ => .error .isDirectory
  | some (.link _), _ => .error .noSuchEntry
  | none, .read => .error .noSuchEntry
  | none, _ =>
    if h.tree.get? place.dropLast = some .directory then
      .ok ({ h with tree := h.tree.put place (.file [] false) }.addStream
        (.stored place 0 (mode == OpenMode.append)))
    else .error .noSuchEntry
  | some (.file _ _), _ =>
    match c.site.devices.lookup place with
    | some kind => .ok (h.addStream (.device kind))
    | none =>
      let h := if mode = .write then h.setContent place [] else h
      .ok (h.addStream (.stored place 0 (mode == OpenMode.append)))

/-- Opens a path and gives the index of the stream. A device that stands for a number of the program
gives the stream of that number. -/
def openPath (c : Context) (h : Host) (mode : OpenMode) (path : Path) :
    Except IoError (Nat × Host) := do
  let purpose : FileTree.Purpose := if mode = .read then .target else .writing
  let spot ← (c.files h).locate purpose path
  match spot.entry, (c.site.devices.lookup spot.place).bind numberOf? with
  | some (.file _ _), some number =>
    match c.descriptors.lookup number with
    | none => throw (.system 6)
    | some index =>
      match h.stream index with
      | .stored place _ _ => c.openPlace h mode place (h.tree.get? place)
      | _ => pure (index, h)
  | entry, _ => c.openPlace h mode spot.place entry

end Context

/-- What a program does to a host. -/
abbrev Task := ReaderT Context (StateM Host)

namespace Task

/-- The files as they are. -/
def files : Task FileSystem := do return (← read).files (← get)

/-- Changes the tree, or tells why it cannot be changed. -/
def change (f : FileSystem → Except IoError FileTree) : Task (Option IoError) := do
  match f (← files) with
  | .ok tree => modify fun h => { h with tree := tree }; return none
  | .error cause => return some cause

/-- Reads what is left of the stream of a number. -/
def readAll (number : Nat) : Task (Except IoError Octets) := do
  match (← read).descriptors.lookup number with
  | none => return .error (.system 9)
  | some index =>
    let (result, h) := (← get).readAll index
    set h
    return result

/-- Puts back what has been read from the stream of a number and was not used. -/
def putBack (number : Nat) (unused : Octets) : Task Unit := do
  match (← read).descriptors.lookup number with
  | none => return
  | some index => modify fun h => h.putBack index unused

/-- Writes to the stream of a number. -/
def writeTo (number : Nat) (text : Octets) : Task Unit := do
  match (← read).descriptors.lookup number with
  | none => modify fun h => { h with writeFault := some (.system 9) }
  | some index =>
    let (result, h) := (← get).write index text
    match result with
    | .ok () => set h
    | .error cause => set { h with writeFault := some cause }

/-- Writes to the output. -/
def print (text : Octets) : Task Unit := if text.isEmpty then pure () else writeTo 1 text

/-- Writes a line to the output. -/
def printLine (text : Octets) : Task Unit := print (text ++ ['\n'])

/-- Writes a message under the name of the program. -/
def complain (message : String) : Task Unit := do
  writeTo 2 ((← read).name ++ ": ".toList ++ Octets.ofText message ++ ['\n'])

/-- Opens a file; the result is the index of its stream. -/
def openFile (mode : OpenMode) (name : Octets) : Task (Except IoError Nat) := do
  match (← read).openPath (← get) mode name.toPath with
  | .ok (index, h) => set h; return .ok index
  | .error cause => return .error cause

/-- The content of a file that is named; a hyphen names the input. What opening the file gives comes
first, and what reading it gives second. -/
def openContent (name : Octets) : Task (Except IoError (Except IoError Octets)) := do
  if name = ['-'] then return .ok (← readAll 0)
  else
    match ← openFile .read name with
    | .error cause => return .error cause
    | .ok index =>
      let (result, h) := (← get).readAll index
      set h
      return .ok result

/-- The content of a file that is named. -/
def content (name : Octets) : Task (Except IoError Octets) := do
  match ← openContent name with
  | .ok result => return result
  | .error cause => return .error cause

/-- The content of a file, or a complaint about it. -/
def contentOrComplaint (name : Octets) : Task (Option Octets) := do
  match ← content name with
  | .ok text => return some text
  | .error cause =>
    complain (name.toText ++ ": " ++ cause.plainMessage)
    return none

/-- Puts back what was not used of the input, if that can be done, which it cannot in a pipe. -/
def rewind (unused : Octets) : Task Unit := do
  match (← read).descriptors.lookup 0 with
  | none => return
  | some index =>
    match (← get).stream index with
    | .stored _ _ _ => modify fun h => h.putBack index unused
    | _ => return

/-- Puts content into a file that is named. -/
def store (name content : Octets) : Task (Option IoError) := do
  match ← openFile .write name with
  | .error cause => return some cause
  | .ok index =>
    let (result, h) := (← get).write index content
    set h
    match result with
    | .ok () => return none
    | .error cause => return some cause

end Task

/-- How a program ended. -/
inductive Ending where
  | exited (status : Nat)
  | killed (signal : Nat)
deriving DecidableEq, Repr

/-- The status by which a shell knows how a program ended. -/
def Ending.status : Ending → Nat
  | exited status => status
  | killed signal => 128 + signal

/-- Runs the file at a path. The first of the words is the name under which the program is called. -/
abbrev Launcher := Context → Octets → List Octets → Host → Except IoError (Ending × Host)

end CallbackWeave

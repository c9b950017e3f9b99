import CallbackWeave.Shell.Arithmetic
import CallbackWeave.Shell.Pattern
import CallbackWeave.Shell.State

/-!
Expansion of words. A word becomes pieces; the pieces that come from an expansion outside quotes are
split into fields, and a field with wild characters becomes the names of the files that it fits.
-/

namespace CallbackWeave.Shell

/-- A piece of an expanded word. -/
inductive Piece where
  /-- Text that is not split. -/
  | fixed (text : Octets) (quoted : Bool)
  /-- Text that is split into fields. -/
  | loose (text : Octets)
  /-- A field ends here. -/
  | parting

/-! ## Fields -/

/-- Fields under way: those that are complete, last one first, the glyphs of the next one in reverse if
it has begun, and whether a blank was the last separator. -/
structure Fields where
  complete : List (List Glyph)
  current : Option (List Glyph)
  afterBlank : Bool

namespace Fields

/-- Adds text to the field under way. -/
def add (f : Fields) (quoted : Bool) (text : Octets) : Fields :=
  ⟨f.complete, some ((Glyph.ofText quoted text).reverse ++ f.current.getD []), false⟩

/-- Ends the field under way. -/
def finish (f : Fields) (afterBlank : Bool) : Fields :=
  match f.current with
  | some glyphs => ⟨glyphs.reverse :: f.complete, none, afterBlank⟩
  | none => { f with afterBlank := afterBlank }

/-- Adds a character of text that is split. Blanks around another separator belong to it. -/
def addSplit (separators : Octets) (f : Fields) (c : Char) : Fields :=
  if !separators.contains c then f.add false [c]
  else if c = ' ' || c = '\t' || c = '\n' then f.finish (f.current.isSome || f.afterBlank)
  else if f.current.isSome || f.afterBlank then f.finish false
  else { f with complete := [] :: f.complete }

/-- Adds a piece. -/
def addPiece (separators : Octets) (f : Fields) : Piece → Fields
  | .fixed text quoted => f.add quoted text
  | .loose text =>
    if separators.isEmpty then if text.isEmpty then f else f.add false text
    else text.foldl (addSplit separators) f
  | .parting => f.finish false

/-- The fields of pieces. -/
def ofPieces (separators : Octets) (pieces : List Piece) : List (List Glyph) :=
  ((pieces.foldl (addPiece separators) ⟨[], none, false⟩).finish false).complete.reverse

end Fields

/-- The glyphs of pieces that are not split. -/
def Piece.glyphs (pieces : List Piece) : List Glyph :=
  pieces.flatMap fun
    | .fixed text quoted => Glyph.ofText quoted text
    | .loose text => Glyph.ofText false text
    | .parting => [⟨' ', false⟩]

/-! ## Names of files -/

/-- The names in a directory that a pattern fits. A point at the front of a name has to be written. -/
def matchingNames (fs : FileSystem) (directory : Octets) (glyphs : List Glyph) : List Octets :=
  let path : Path := if directory.isEmpty then ⟨"."⟩ else directory.toPath
  match fs.locate .target path with
  | .ok ⟨place, some .directory⟩ =>
    let pattern := Pattern.ofGlyphs glyphs
    let fits (name : Octets) : Bool :=
      (name.head? ≠ some '.' || (glyphs.head?.map Glyph.char) = some '.') && pattern.fits name
    (['.'] :: ['.', '.'] :: (fs.tree.names place).map Octets.ofText).filter fits
  | _ => []

/-- Whether something is at a path, links themselves included. -/
def isThere (fs : FileSystem) (name : Octets) : Bool :=
  match fs.locate .entry name.toPath with
  | .ok ⟨_, some _⟩ => true
  | _ => false

/-- The paths that go on from a path as the patterns say, one for each separator. -/
def pathsFrom (fs : FileSystem) (front : Octets) : List (List Glyph) → List Octets
  | [] => []
  | [last] =>
    if (Pattern.ofGlyphs last).isWild then (matchingNames fs front last).map (front ++ ·)
    else
      let path := front ++ Glyph.text last
      if isThere fs path then [path] else []
  | part :: rest =>
    if (Pattern.ofGlyphs part).isWild then
      (matchingNames fs front part).flatMap fun name => pathsFrom fs (front ++ name ++ ['/']) rest
    else pathsFrom fs (front ++ Glyph.text part ++ ['/']) rest

/-- The names of the files that a field fits, or the field itself if there are none. -/
def fileNames (fs : FileSystem) (field : List Glyph) : List Octets :=
  if (Pattern.ofGlyphs field).isWild then
    match pathsFrom fs [] (field.splitOnP (·.char = '/')) with
    | [] => [Glyph.text field]
    | found => found.mergeSort Octets.precedes
  else [Glyph.text field]

/-! ## Tildes -/

/-- The home of a user that the list of users names. -/
def homeOf? (fs : FileSystem) (user : Octets) : Option Octets :=
  let lines := Octets.lines (Octets.ofBytes ((fs.read ⟨"/etc/passwd"⟩).toOption.getD []))
  let home? (line : Octets) : Option Octets :=
    match line.splitOn ':' with
    | [name, _, _, _, _, home, _] => if name = user then some home else none
    | _ => none
  lines.findSome? home?

/-- Expands the tilde at the front of a text. The name behind it ends at a separator, or at the end of
the text if nothing else follows there. -/
def expandHome (s : State) (fs : FileSystem) (isLast : Bool) (text : Octets) : List Part :=
  match text with
  | '~' :: rest =>
    let user := rest.takeWhile (· ≠ '/')
    let home := if user.isEmpty then s.setting? "HOME".toList else homeOf? fs user
    match home with
    | some home =>
      if isLast || user.length < rest.length then [.literal home, .plain (rest.drop user.length)]
      else [.plain text]
    | none => [.plain text]
  | text => [.plain text]

/-- Expands the tilde at the front of a word. With `inValue` a tilde after a colon counts too. -/
def expandTilde (s : State) (fs : FileSystem) (inValue : Bool) : Word → Word
  | .plain text :: rest =>
    if inValue then
      let parts := text.splitOn ':'
      let expanded := parts.mapIdx fun i part =>
        expandHome s fs (rest.isEmpty || i + 1 < parts.length) part
      [Part.plain [':']].intercalate expanded ++ rest
    else expandHome s fs rest.isEmpty text ++ rest
  | word => word

/-! ## Shells inside others -/

namespace State

/-- The state of a shell that is started inside another. -/
def inner (s : State) (number : Nat) : State :=
  { s with
    context := { s.context with program := number, parent := s.context.program }
    traps := s.traps.filter (·.2.isEmpty)
    outputStatus := none }

/-- The state in which a number stands for another stream. -/
def connect (s : State) (number stream : Nat) : State :=
  { s with context := { s.context with
      descriptors := (number, stream) :: s.context.descriptors.filter (·.1 ≠ number) } }

/-- The state in which a number stands for nothing. -/
def disconnect (s : State) (number : Nat) : State :=
  { s with context := { s.context with
      descriptors := s.context.descriptors.filter (·.1 ≠ number) } }

end State

namespace Act

/-- The way in which something leaves, if it does. -/
def leaving (act : Act Unit) : Act (Option Leave) := do
  try act; return none catch leave => return some leave

/-- Runs something as a shell does, with the script that is set for the end. -/
def finish (kit : Kit) (act : Act Unit) : Act Ending := do
  match ← leaving (do act; receiveAll kit) with
  | some (.killed signal) => return .killed signal
  | _ =>
    let status := (← state).status
    match (← state).traps.lookup 0 with
    | none => return .exited status
    | some script =>
      update fun s => { s with traps := s.traps.filter (·.1 ≠ 0) }
      match ← leaving (kit.interpret script 1) with
      | some (.killed signal) => return .killed signal
      | some .exiting | some .failing => return .exited (← state).status
      | _ => return .exited status

/-- Runs what is still to be run of a command in the background, and what that leaves in the
background. `fuel` bounds how often this goes on. -/
def runJob (kit : Kit) : Nat → Job → Act Job
  | 0, job => pure { job with work := none }
  | fuel + 1, job => do
    match job.work with
    | none => return job
    | some (inner, command) =>
      let s ← get
      set { s with shell := inner, jobs := [] }
      let ending ← finish kit (kit.evaluate command)
      for other in (← get).jobs do
        let _ ← runJob kit fuel other
      modify fun after => { after with shell := s.shell, jobs := s.jobs }
      return { job with work := none, status := ending.status }

/-- Runs all that is still to be run in the background. -/
def runJobs (kit : Kit) : Act Unit := do
  let jobs := (← get).jobs
  modify fun s => { s with jobs := [] }
  let done ← jobs.mapM (runJob kit kit.limit)
  modify fun s => { s with jobs := done ++ s.jobs }

/-- Runs something in a shell of its own, which is changed before it begins. -/
def inside (kit : Kit) (change : State → State) (act : Act Unit) : Act Ending := do
  let s ← get
  let number := s.host.lastProgram + 1
  set { s with
    shell := change (s.shell.inner number)
    host := { s.host with lastProgram := number }
    jobs := [] }
  let ending ← finish kit act
  runJobs kit
  modify fun after => { after with shell := s.shell, jobs := s.jobs }
  receiveAll kit
  return ending

/-- Adds a stream. -/
def addStream (stream : Stream) : Act Nat := do
  let s ← get
  let (index, host) := s.host.addStream stream
  set { s with host := host }
  return index

/-- The output of a command, as a value: the line feeds at its end are dropped. -/
def capture (kit : Kit) (body : Command) : Act Octets := do
  let index ← addStream (.pipe [] [])
  let change (s : State) : State := { s.connect 1 index with asked := false, isLast := true }
  let ending ← inside kit change (kit.evaluate body)
  let s ← get
  let (content, host) := s.host.readAll index
  set { s with host := host }
  update fun s => { s with outputStatus := some ending.status }
  let text := (content.toOption.getD []).filter (· ≠ '\x00')
  return (text.reverse.dropWhile (· = '\n')).reverse

end Act

/-! ## Words -/

/-- The name of the variable that an operation sets. -/
def settable (name : Octets) : Act Unit :=
  if isName name then pure () else Act.fail (name ++ ": bad variable name".toList)

/-- The value of a parameter, where the list of all arguments counts as set if it is not empty. -/
def parameterValue (name : Octets) : Act (Option Octets) := do
  let s ← Act.state
  match name with
  | ['@'] | ['*'] => return if s.arguments.isEmpty then none else some s.joinedArguments
  | name => return s.parameter? name

/-- Gives up if a parameter that is not set may not be used. -/
def demandSet (name : Octets) (value : Option Octets) : Act Octets := do
  match value with
  | some value => return value
  | none =>
    if (← Act.hasOption 'u') && name ≠ ['@'] && name ≠ ['*'] then
      Act.fail (name ++ ": parameter not set".toList)
    else return []

/-- The pieces of a value. -/
def valuePieces (quoted : Bool) (value : Octets) : List Piece :=
  if quoted then [.fixed value true] else [.loose value]

/-- The pieces of the list of all arguments. -/
def argumentPieces (quoted : Bool) (arguments : List Octets) : List Piece :=
  (arguments.map (valuePieces quoted)).intersperse [.parting] |>.flatten

/-- Expands a part of a word. With `splits` plain text is split into fields, as it is in the word of an
operation; with `inFields` the list of all arguments becomes several fields. `fuel` bounds how deep
words stand in each other. -/
def expandPart (kit : Kit) (inFields : Bool) : Nat → Bool → Part → Act (List Piece)
  | 0, _, _ => pure []
  | fuel + 1, splits, part => do
    let expand (word : Word) : Act (List Piece) := do
      return (← word.mapM (expandPart kit inFields fuel true)).flatten
    let flat (word : Word) : Act (List Glyph) := do
      return Piece.glyphs (← word.mapM (expandPart kit false fuel false)).flatten
    match part with
    | .plain text => return [if splits then .loose text else .fixed text false]
    | .literal text => return [.fixed text true]
    | .output body quoted => return valuePieces quoted (← Act.capture kit body)
    | .arithmetic expression quoted =>
      let text := Glyph.text (← flat expression)
      let s ← Act.state
      match Arithmetic.run s.setting? text with
      | .error fault => Act.fail (fault.message text)
      | .ok (value, settings) =>
        settings.forM fun (name, value) => Act.assign name value
        return valuePieces quoted (Octets.ofInt value.toInt)
    | .parameter name operation word quoted =>
      let value ← parameterValue name
      let usable (colon : Bool) : Option Octets :=
        value.filter fun v => !colon || !v.isEmpty
      let plainValue : Act (List Piece) := do
        let s ← Act.state
        match name with
        | ['@'] =>
          if inFields then return argumentPieces quoted s.arguments
          else return valuePieces quoted s.joinedArguments
        | ['*'] =>
          if inFields && !quoted then return argumentPieces quoted s.arguments
          else return valuePieces quoted s.joinedArguments
        | name => return valuePieces quoted (← demandSet name value)
      let wordPieces : Act (List Piece) := do
        let pieces ← expand word
        return if quoted && pieces.isEmpty then [.fixed [] true] else pieces
      match operation with
      | .value => plainValue
      | .length => return valuePieces quoted (Octets.ofNat (← demandSet name value).length)
      | .default colon => if (usable colon).isSome then plainValue else wordPieces
      | .alternative colon =>
        if (usable colon).isSome then wordPieces
        else return if quoted then [.fixed [] true] else []
      | .assign colon =>
        if (usable colon).isSome then plainValue
        else
          settable name
          let text := Glyph.text (← flat word)
          Act.assign name text
          return valuePieces quoted text
      | .demand colon =>
        if (usable colon).isSome then plainValue
        else
          let text := Glyph.text (← flat word)
          let note := if text.isEmpty then
              "parameter not set" ++ if colon then " or null" else ""
            else text.toText
          Act.fail (name ++ ": ".toList ++ Octets.ofText note)
      | .trim atFront longest =>
        let value ← demandSet name value
        let pattern := Pattern.ofGlyphs (← flat word)
        return valuePieces quoted (pattern.trim atFront longest value)
      | .unknown => Act.fail "Bad substitution".toList

/-- The bound on how deep words stand in each other. -/
def wordDepth : Nat := 100

/-- Expands a word to pieces. -/
def expandPieces (kit : Kit) (inFields inValue : Bool) (word : Word) : Act (List Piece) := do
  let s ← Act.state
  let word := expandTilde s (s.context.files (← get).host) inValue word
  return (← word.mapM (expandPart kit inFields wordDepth false)).flatten

/-- Expands a word that is not split, and keeps what was quoted. -/
def expandGlyphs (kit : Kit) (inValue : Bool) (word : Word) : Act (List Glyph) := do
  return Piece.glyphs (← expandPieces kit false inValue word)

/-- Expands a word that is not split. -/
def expandText (kit : Kit) (inValue : Bool) (word : Word) : Act Octets := do
  return Glyph.text (← expandGlyphs kit inValue word)

/-- Expands a word to fields, in which the names of files have been found. -/
def expandFields (kit : Kit) (word : Word) : Act (List Octets) := do
  let pieces ← expandPieces kit true false word
  let s ← Act.state
  let fields := Fields.ofPieces s.separators pieces
  if s.options.contains 'f' then return fields.map Glyph.text
  else
    let fs := s.context.files (← get).host
    return fields.flatMap (fileNames fs)

end CallbackWeave.Shell

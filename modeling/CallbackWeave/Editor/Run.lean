import CallbackWeave.Editor.Reader
import CallbackWeave.Host.Search
import CallbackWeave.Utility.Options

/-!
How programs of the editor are carried out. For each line of the input the program is carried out once;
then the line is written, and what has been put behind it. What is written keeps the missing end of a
last line missing, unless something else is written behind it.
-/

namespace CallbackWeave.Editor

open Utility

/-- A line, or what has been made of it, and whether it has its end. -/
structure Buffer where
  text : Octets
  ended : Bool
deriving Repr

/-- Where something is written. -/
inductive Outlet where
  | output
  | messages
  /-- The new content of the file that is edited. -/
  | edited
  | stream (index : Nat)
deriving DecidableEq, Repr

/-- What is written behind a line. -/
inductive Appended where
  | text (text : Octets)
  | file (name : Octets)
  | line (b : Buffer)

/-- How far a range of lines has come. -/
inductive RangeState where
  | outside
  /-- Inside, up to a line if its number is known. -/
  | inside (last : Option Nat)
  /-- A range that begins at a line of a given number does not begin again. -/
  | over
deriving DecidableEq, Repr

/-- How a program is carried out. -/
structure Manner where
  program : Program
  /-- Whether lines are written only if the program asks for it. -/
  silent : Bool
  /-- Whether each file has lines of its own. -/
  separate : Bool
  /-- Whether files get what is written as their content, and how their old content is kept. -/
  inPlace : Option Octets
  /-- The end of a line. -/
  ending : Char
  /-- The width at which lines are broken that are shown plainly. -/
  width : Nat
  /-- The origin of the last piece of the program. -/
  origin : Origin
  launch : Launcher

/-- What is held while a program is carried out. -/
structure State where
  line : Buffer
  held : Buffer
  number : Nat
  /-- The name of the file that is read, and the lines in it that are still to come. -/
  name : Octets
  rest : List Octets
  /-- The files that are still to come. -/
  files : List Octets
  replaced : Bool
  appended : List Appended
  ranges : Array RangeState
  lastTarget : Option Target
  /-- The files that are written to. -/
  outlets : List (Octets × Outlet)
  /-- Where the end of the last line is missing. -/
  unfinished : List Outlet
  /-- The files of which lines are taken: all of them, and those that are left. -/
  sources : List (Octets × List Octets × List Octets)
  /-- The new content of the file that is edited, last part first. -/
  edited : Option (List Octets)
  failed : Bool

/-- What a program does; it may end with a status. -/
abbrev Act := ExceptT Nat (StateT State Task)

/-- What follows an instruction. -/
inductive Next where
  | goOn (place : Nat)
  /-- The end of the program, and whether the line is written. -/
  | finish (prints : Bool)
  /-- The program begins again without another line. -/
  | again
deriving DecidableEq, Repr

namespace Act

/-! ## Writing -/

/-- Writes a text as it is. -/
def send (o : Outlet) (text : Octets) : Act Unit := do
  match o with
  | .output => (Task.print text : Task Unit)
  | .messages => (Task.writeTo 2 text : Task Unit)
  | .edited => modify fun s => { s with edited := s.edited.map (text :: ·) }
  | .stream index => do
    let h ← (get : Task Host)
    (set (h.write index text).2 : Task Unit)

/-- Writes a text behind what has been written, which is a whole number of lines then. -/
def write (m : Manner) (o : Outlet) (text : Octets) : Act Unit := do
  if (← get).unfinished.contains o then
    send o [m.ending]
    modify fun s => { s with unfinished := s.unfinished.filter (· ≠ o) }
  send o text

/-- Writes a line. -/
def writeBuffer (m : Manner) (o : Outlet) (b : Buffer) : Act Unit := do
  write m o (if b.ended then b.text ++ [m.ending] else b.text)
  if !b.ended then modify fun s => { s with unfinished := o :: s.unfinished }

/-- Where the program writes. -/
def mainOutlet : Act Outlet := do
  return if (← get).edited.isSome then .edited else .output

/-- Where a file is written. -/
def outletOf (name : Octets) : Act Outlet := do
  return ((← get).outlets.lookup name).getD .output

/-- The lines of a text without their ends, and whether the last one has its end. -/
def buffers (ending : Char) (text : Octets) : List Octets :=
  let parts := text.splitOn ending
  let whole := parts.dropLast.map (· ++ [ending])
  whole ++ (match parts.getLast? with
    | some [] | none => []
    | some last => [last])

/-- A line that may have its end. -/
def buffer (ending : Char) (line : Octets) : Buffer :=
  if line.getLast? = some ending then ⟨line.dropLast, true⟩ else ⟨line, false⟩

/-- Writes the text of an instruction. -/
def writeText (m : Manner) (o : Outlet) (text : Octets) : Act Unit :=
  if text.isEmpty then pure () else writeBuffer m o ⟨Octets.chomp text, true⟩

/-- Writes what has been put behind the line. -/
def flush (m : Manner) : Act Unit := do
  let appended := (← get).appended.reverse
  modify fun s => { s with appended := [] }
  let o ← mainOutlet
  for a in appended do
    match a with
    | .text text => write m o text
    | .line b => writeBuffer m o b
    | .file name =>
      write m o ((← (Task.content name : Task (Except IoError Octets))).toOption.getD [])

/-! ## Reading -/

/-- Complains about something. -/
def complain (message : String) : Act Unit := (Task.complain message : Task Unit)

/-- Ends the file that is read. -/
def closeFile (m : Manner) : Act Unit := do
  let s ← get
  match s.edited, m.inPlace with
  | some pieces, some suffix =>
    let files ← (Task.files : Task FileSystem)
    if !suffix.isEmpty then
      let base := ((s.name.splitOn '/').getLast?).getD []
      let directory := s.name.take (s.name.length - base.length)
      let kept := if suffix.contains '*' then suffix.flatMap fun c => if c = '*' then base else [c]
        else base ++ suffix
      let path := if kept.contains '/' then kept else directory ++ kept
      let old := (files.read s.name.toPath).toOption.getD []
      match ← (Task.store path (Octets.ofBytes old) : Task (Option IoError)) with
      | some cause =>
        complain ("cannot rename " ++ s.name.toText ++ ": " ++ cause.plainMessage)
        modify fun s => { s with edited := none }
        throw 4
      | none => pure ()
    let _ ← (Task.store s.name pieces.reverse.flatten : Task (Option IoError))
    modify fun s =>
      { s with edited := none, unfinished := s.unfinished.filter (· ≠ .edited) }
  | _, _ => pure ()

/-- The states of the ranges before the first line. -/
def initialRanges (p : Program) : Array RangeState :=
  p.map fun i =>
    match i.reach with
    | .range (.line 0) _ => .inside none
    | _ => .outside

/-- Opens the next file, if there is one. -/
def nextFile (m : Manner) : Act Bool := do
  closeFile m
  match (← get).files with
  | [] => return false
  | name :: files =>
    modify fun s => { s with name := name, files := files }
    if m.separate then
      modify fun s =>
        { s with
          number := 0
          held := { s.held with text := [] }
          ranges := initialRanges m.program
          sources := s.sources.map fun (name, all, _) => (name, all, all) }
    let tree ← (Task.files : Task FileSystem)
    let refusal := m.inPlace.isSome && tree.holds name.toPath && !tree.isFile name.toPath
    if refusal then
      complain ("couldn't edit " ++ name.toText ++ ": not a regular file")
      throw 4
    match ← (Task.content name : Task (Except IoError Octets)) with
    | .ok text =>
      modify fun s =>
        { s with rest := buffers m.ending text, edited := m.inPlace.map fun _ => [] }
    | .error .isDirectory =>
      complain ("read error on " ++ name.toText ++ ": Is a directory")
      throw 4
    | .error cause =>
      complain ("can't read " ++ name.toText ++ ": " ++ cause.plainMessage)
      modify fun s => { s with failed := true }
    return true

/-- Takes the next line, if there is one. `fuel` bounds the files in which it is looked for. -/
def takeLine (m : Manner) : Nat → Act (Option Buffer)
  | 0 => return none
  | fuel + 1 => do
    match (← get).rest with
    | line :: rest =>
      modify fun s => { s with rest := rest, number := s.number + 1 }
      return some (buffer m.ending line)
    | [] => if ← nextFile m then takeLine m fuel else return none

/-- Whether a file that is still to come has lines. -/
def hasLines (name : Octets) : Act Bool := do
  let c ← (read : Task Context)
  let h ← (get : Task Host)
  if name = ['-'] then
    match c.descriptors.lookup 0 with
    | some index => return !((h.readAll index).1.toOption.getD []).isEmpty
    | none => return false
  else return !(((c.files h).read name.toPath).toOption.getD []).isEmpty

/-- Whether the line is the last one. -/
def isLast (m : Manner) : Act Bool := do
  let s ← get
  if !s.rest.isEmpty then return false
  else if m.separate then return true
  else return !(← s.files.anyM hasLines)

/-- Puts the next line in the place of the line, or behind it; the result is whether there is one. -/
def advance (m : Manner) (keeps : Bool) : Act Bool := do
  flush m
  modify fun s => { s with replaced := false }
  match ← takeLine m ((← get).files.length + 2) with
  | none => return false
  | some next =>
    modify fun s =>
      { s with line := if keeps then ⟨s.line.text ++ m.ending :: next.text, next.ended⟩ else next }
    return true

/-! ## Addresses -/

/-- What is looked for, which may be what was looked for last. -/
def resolve (m : Manner) (target : Option Target) : Act Target := do
  match target, (← get).lastTarget with
  | some t, _ =>
    modify fun s => { s with lastTarget := some t }
    return t
  | none, some t => return t
  | none, none =>
    complain (Source.blame m.origin 0 0 "no previous regular expression")
    modify fun s => { s with edited := none }
    throw 1

/-- A text in which something is looked for. -/
def subject (t : Target) (text : Octets) : Subject := ⟨text.toArray, t.foldsCase, t.hasLines, true⟩

/-- Whether the line is meant. -/
def isAt (m : Manner) (a : Address) : Act Bool := do
  let s ← get
  match a with
  | .line n => return s.number = n
  | .every first step => return s.number ≥ first && (s.number - first) % step = 0
  | .last => isLast m
  | .fits target =>
    let t ← resolve m target
    return (t.regex.search (subject t s.line.text) 0).isSome

/-- Whether a range begins at the line. A line number that has been gone past counts too. -/
def begins (m : Manner) (first : Address) : Act Bool := do
  match first with
  | .line n => return n ≤ (← get).number
  | a => isAt m a

/-- The state of a range that begins at a line, given its number; `ended` is the state behind a range. -/
def begun (number : Nat) (ended : RangeState) : Bound → RangeState
  | .address (.line n) => upTo n
  | .address (.every first step) =>
    upTo (first + (number - first + step - 1) / step * step)
  | .address _ => .inside none
  | .distance count => if count = 0 then ended else .inside (some (number + count))
  | .multiple d => if d = 0 then ended else .inside (some ((number / d + 1) * d))
where
  /-- The state of a range that ends at a line. -/
  upTo (last : Nat) : RangeState := if last ≤ number then ended else .inside (some last)

/-- Whether a line belongs to a range that begins at it or has been gone past: a range of numbers does
not if the line is behind its end and is not its beginning. -/
def belongs (number : Nat) : Address → Bound → Bool
  | .line first, .address (.line last) => number = first || number ≤ last
  | _, _ => true

/-- Whether an instruction is carried out at the line. -/
def reaches (m : Manner) (place : Nat) (reach : Reach) : Act Bool := do
  let put (state : RangeState) : Act Unit :=
    modify fun s => { s with ranges := s.ranges.setIfInBounds place state }
  let s ← get
  match reach with
  | .all => return true
  | .one a => isAt m a
  | .range first last =>
    let ended : RangeState := match first with
      | .line _ => .over
      | _ => .outside
    match s.ranges[place]?.getD .outside, last with
    | .inside (some n), last =>
      if n ≤ s.number then put ended
      return match last with
        | .address (.line _) => s.number ≤ n
        | _ => true
    | .inside none, .address a =>
      if ← isAt m a then put ended
      return true
    | .inside none, _ => return true
    | .over, _ => return false
    | .outside, last =>
      if ← begins m first then
        put (begun s.number ended last)
        return belongs s.number first last
      else return false

/-! ## Instructions -/

/-- A letter as it is written. -/
def cased : LetterCase → Char → Char
  | .kept, c => c
  | .upper, c => c.toUpper
  | .lower, c => c.toLower

/-- The text of the parts of a replacement. -/
def rendered (group : Nat → Octets) : LetterCase → Option LetterCase → List Part → Octets
  | _, _, [] => []
  | _, _, .letters case :: rest => rendered group case none rest
  | case, _, .letter next :: rest => rendered group case (some next) rest
  | case, next, .text text :: rest => piece case next text rest
  | case, next, .group n :: rest => piece case next (group n) rest
where
  /-- A text as its letters are written, and the parts behind it. -/
  piece (case : LetterCase) (next : Option LetterCase) (text : Octets) (rest : List Part) : Octets :=
    match text with
    | [] => rendered group case next rest
    | c :: more =>
      cased (next.getD case) c :: more.map (cased case) ++ rendered group case none rest

/-- What a substitution makes of the text from an index on, and whether something has been replaced.
`seen` is the number of places before, and `last` the end of the place before. `fuel` bounds the places
that are looked at. -/
def replacedFrom (s : Substitution) (t : Target) (subject : Subject) :
    Nat → Nat → Nat → Option Nat → Octets × Bool
  | 0, start, _, _ => (subject.slice start subject.text.size, false)
  | fuel + 1, start, seen, last =>
    match t.regex.search subject start with
    | none => (subject.slice start subject.text.size, false)
    | some (first, found) =>
      let isEmpty := first = found.stop
      let front := subject.slice start first
      let behind := if isEmpty then subject.slice first (first + 1) else []
      let next := if isEmpty then first + 1 else found.stop
      let goOn (seen : Nat) : Octets × Bool :=
        if next > subject.text.size then ([], false)
        else replacedFrom s t subject fuel next seen (some found.stop)
      if isEmpty && last = some first then
        let (rest, done) := goOn seen
        (front ++ behind ++ rest, done)
      else if seen + 1 < s.nth then
        let (rest, done) := goOn (seen + 1)
        (front ++ subject.slice first found.stop ++ behind ++ rest, done)
      else
        let put := rendered (found.groupText subject first) .kept none s.parts
        if s.everywhere then
          (front ++ put ++ behind ++ (goOn (seen + 1)).1, true)
        else (front ++ put ++ subject.slice found.stop subject.text.size, true)

/-- Puts a text in the place of the line. -/
def setText (text : Octets) : Act Unit :=
  modify fun s => { s with line := { s.line with text := text } }

/-- The output of a command. -/
def outputOf (m : Manner) (command : Octets) : Act Octets := do
  return (← (Task.outputOf m.launch command : Task (Octets × Ending))).1

/-- Carries out a substitution. -/
def substitute (m : Manner) (s : Substitution) : Act Unit := do
  let t ← resolve m s.target
  let text := (← get).line.text
  let (result, done) := replacedFrom s t (subject t text) (text.length + 2) 0 0 none
  if done then
    setText result
    modify fun s => { s with replaced := true }
    if s.runs then
      let output ← outputOf m result
      setText (if output.getLast? = some m.ending then output.dropLast else output)
    if s.prints then writeBuffer m (← mainOutlet) (← get).line
    match s.file with
    | some name => writeBuffer m (← outletOf name) (← get).line
    | none => pure ()

/-- The escapes that are shown for characters that cannot be seen. -/
def shownEscapes : List (Char × Char) :=
  [('\\', '\\'), ('\x07', 'a'), ('\x08', 'b'), ('\x0c', 'f'), ('\n', 'n'), ('\r', 'r'), ('\t', 't'),
    ('\x0b', 'v')]

/-- A character as it is shown plainly. -/
def shownCharacter (c : Char) : Octets :=
  match shownEscapes.lookup c with
  | some letter => ['\\', letter]
  | none =>
    if ' ' ≤ c && c ≤ '~' then [c]
    else '\\' :: (Octets.padLeft 3 '0' (Nat.toDigits 8 c.toNat))

/-- A text as it is shown plainly, broken at a width. -/
def shownPlainly (ending : Char) (width : Nat) : Nat → Octets → Octets
  | _, [] => ['$']
  | column, c :: rest =>
    let shown := shownCharacter c
    if width > 0 && column + shown.length > width - 1 then
      '\\' :: ending :: shown ++ shownPlainly ending width shown.length rest
    else shown ++ shownPlainly ending width (column + shown.length) rest

/-- Puts something behind the line. -/
def append (a : Appended) : Act Unit := modify fun s => { s with appended := a :: s.appended }

/-- Takes a line of a file that is read line by line. -/
def sourceLine (m : Manner) (name : Octets) : Act (Option Octets) := do
  let (all, rest) ← match (← get).sources.lookup name with
    | some lines => pure lines
    | none => do
      let text ← (Task.content name : Task (Except IoError Octets))
      let all := buffers m.ending (text.toOption.getD [])
      pure (all, all)
  let others := (← get).sources.filter (·.1 ≠ name)
  modify fun s => { s with sources := (name, all, rest.drop 1) :: others }
  return rest.head?

/-- Ends with a status; the line is written before, and what has been put behind it. -/
def quit (m : Manner) (status : Nat) : Act Next := do
  if !m.silent then writeBuffer m (← mainOutlet) (← get).line
  write m (← mainOutlet) []
  flush m
  throw status

/-- Carries out an instruction. -/
def perform (m : Manner) (place : Nat) (action : Action) : Act Next := do
  let goOn : Next := .goOn (place + 1)
  let s ← get
  let o ← mainOutlet
  let front := s.line.text.takeWhile (· ≠ m.ending)
  let firstLine : Buffer := ⟨front, s.line.ended || front.length < s.line.text.length⟩
  match action with
  | .openBlock | .closeBlock | .label _ | .nothing => return goOn
  | .jump condition label =>
    let jumps := condition = .always || (condition = .ifReplaced) = s.replaced
    if condition ≠ .always then modify fun s => { s with replaced := false }
    return if jumps then .goOn ((m.program.placeOf? label).getD m.program.size) else goOn
  | .append text => append (.text text); return goOn
  | .insert text => writeText m o text; return goOn
  | .change text =>
    let isInside := match s.ranges[place]?.getD .outside, m.program[place]?.map Instruction.reach with
      | .inside _, some (.range _ _) => true
      | _, _ => false
    if !isInside then writeText m o text
    return .finish false
  | .delete => return .finish false
  | .deleteFirst =>
    if s.line.text.contains m.ending then
      setText (s.line.text.drop (front.length + 1))
      return .again
    else return .finish false
  | .command text =>
    if text.isEmpty then
      let output ← outputOf m s.line.text
      setText (if output.getLast? = some m.ending then output.dropLast else output)
    else
      let output ← outputOf m text
      write m o output
    return goOn
  | .showName => writeBuffer m o ⟨s.name, true⟩; return goOn
  | .showNumber => writeBuffer m o ⟨Octets.ofNat s.number, true⟩; return goOn
  | .showPlainly width =>
    writeBuffer m o ⟨shownPlainly m.ending (width.getD m.width) 0 s.line.text, true⟩
    return goOn
  | .get => set { s with line := s.held }; return goOn
  | .getMore =>
    set { s with line := ⟨s.line.text ++ m.ending :: s.held.text, s.held.ended⟩ }
    return goOn
  | .hold => set { s with held := s.line }; return goOn
  | .holdMore =>
    set { s with held := ⟨s.held.text ++ m.ending :: s.line.text, s.line.ended⟩ }
    return goOn
  | .exchange => set { s with line := s.held, held := s.line }; return goOn
  | .next =>
    if ← isLast m then return .finish true
    if !m.silent then writeBuffer m o s.line
    if ← advance m false then return goOn else throw 0
  | .nextMore =>
    if ← isLast m then return .finish true
    if ← advance m true then return goOn else return .finish true
  | .print => writeBuffer m o s.line; return goOn
  | .printFirst => writeBuffer m o firstLine; return goOn
  | .quit status => quit m status
  | .quitSilently status => throw status
  | .readFile name => append (.file name); return goOn
  | .readLine name =>
    match ← sourceLine m name with
    | some line => append (.line (buffer m.ending line))
    | none => pure ()
    return goOn
  | .writeFile name => writeBuffer m (← outletOf name) s.line; return goOn
  | .writeFirst name => writeBuffer m (← outletOf name) firstLine; return goOn
  | .substitute substitution => substitute m substitution; return goOn
  | .translate pairs =>
    setText (s.line.text.map fun c => (pairs.lookup c).getD c)
    return goOn
  | .clear => setText []; return goOn

/-- Carries out the program from a place on, for the line and those that follow. `fuel` bounds the
instructions. -/
def carryOut (m : Manner) : Nat → Nat → Act Unit
  | 0, _ => return
  | fuel + 1, place => do
    let next ← match m.program[place]? with
      | none => pure (Next.finish true)
      | some i =>
        if (← reaches m place i.reach) != i.negated then perform m place i.action
        else
          match i.action with
          | .openBlock => pure (.goOn (m.program.behindBlock m.program.size 0 (place + 1)))
          | _ => pure (.goOn (place + 1))
    match next with
    | .goOn place => carryOut m fuel place
    | .again =>
      flush m
      carryOut m fuel 0
    | .finish prints =>
      if prints && !m.silent then writeBuffer m (← mainOutlet) (← get).line
      if ← advance m false then carryOut m fuel 0

/-- The bound on instructions. -/
def fuelOfPrograms : Nat := 200000

end Act

/-! ## The program -/

/-- The options. -/
def options : OptionTable :=
  ⟨"bsnrzuEe:f:l:i::",
    [("binary", 'b', .none), ("regexp-extended", 'r', .none), ("expression", 'e', .required),
      ("file", 'f', .required), ("in-place", 'i', .optional), ("line-length", 'l', .required),
      ("null-data", 'z', .none), ("zero-terminated", 'z', .none), ("quiet", 'n', .none),
      ("silent", 'n', .none), ("separate", 's', .none), ("unbuffered", 'u', .none),
      ("posix", 'p', .none), ("debug", 'd', .none), ("sandbox", 'S', .none),
      ("follow-symlinks", 'F', .none)], true⟩

/-- The pieces of a program that options give, with the number of those before that are arguments. A
file that cannot be read is told of. -/
def pieces : Nat → List (Char × Octets) → Task (Option (List (Origin × Octets)))
  | _, [] => return some []
  | count, ('e', text) :: rest => do
    return (← pieces (count + 1) rest).map ((.argument (count + 1), text) :: ·)
  | count, ('f', name) :: rest => do
    match ← Task.content name with
    | .ok text => return (← pieces count rest).map ((.file name, Octets.chomp text) :: ·)
    | .error cause =>
      Task.complain ("couldn't open file " ++ name.toText ++ ": " ++ cause.plainMessage)
      return none
  | count, _ :: rest => pieces count rest

/-- Opens the files to which a program writes. -/
def openOutlets : List Octets → Task (Option (List (Octets × Outlet)))
  | [] => return some []
  | name :: rest => do
    let outlet ← if name = "/dev/stdout".toList then pure (some Outlet.output)
      else if name = "/dev/stderr".toList then pure (some .messages)
      else do
        match ← Task.openFile .write name with
        | .ok index => pure (some (.stream index))
        | .error cause => do
          Task.complain ("couldn't open file " ++ name.toText ++ ": " ++ cause.plainMessage)
          pure none
    match outlet with
    | some outlet => return (← openOutlets rest).map ((name, outlet) :: ·)
    | none => return none

/-- Edits files with a program. The input that a program leaves when it ends early is put back. -/
def edit (m : Manner) (outlets : List (Octets × Outlet)) (files : List Octets) : Task Nat := do
  let start : State :=
    { line := ⟨[], true⟩, held := ⟨[], true⟩, number := 0, name := ['-'], rest := [], files := files
      replaced := false, appended := [], ranges := Act.initialRanges m.program, lastTarget := none
      outlets := outlets, unfinished := [], sources := [], edited := none, failed := false }
  let act : Act Unit := do
    if ← Act.advance m false then Act.carryOut m Act.fuelOfPrograms 0
  let (result, s) ← act.run.run start
  let (_, s) ← (Act.closeFile m).run.run s
  if s.name = ['-'] then Task.rewind s.rest.flatten
  match result with
  | .error status => return if s.failed && status ≠ 4 then 2 else status
  | .ok () => return if s.failed then 2 else 0

/-- Edits files: from options and operands to a status. -/
def run (launch : Launcher) (p : Parsed) : Task Nat := do
  let isGiven := p.has 'e' || p.has 'f'
  match p.operands, isGiven with
  | [], false => return 1
  | operands, _ =>
    let given := if isGiven then p.options else [('e', operands.headD [])]
    let files := if isGiven then operands else operands.drop 1
    match ← pieces 0 given with
    | none => return 4
    | some pieces =>
      let origin := (pieces.getLast?.map Prod.fst).getD (.argument 1)
      match readProgram (p.has 'E' || p.has 'r') pieces with
      | .error message =>
        Task.complain message
        return if message.startsWith "can't find label" then 4 else 1
      | .ok (program, silent) =>
        match ← openOutlets program.writtenFiles with
        | none => return 4
        | some outlets =>
          let manner : Manner :=
            { program := program, silent := silent || p.has 'n'
              separate := p.has 's' || p.has 'i', inPlace := p.value? 'i'
              ending := if p.has 'z' then '\x00' else '\n'
              width := ((p.value? 'l').bind (Number.natOfDigits? 10)).getD 70, origin := origin
              launch := launch }
          edit manner outlets (if files.isEmpty then [['-']] else files)

/-- The editor of streams. -/
def tool : Tool := fun launch arguments => do
  return .exited (← withOptions options 1 (run launch) arguments)

end CallbackWeave.Editor

import CallbackWeave.Utility.Options

/-!
Programs that show files or parts of them, line by line: whole ones, their beginnings and ends, their
sizes, and their lines with numbers, in reverse or broken.
-/

namespace CallbackWeave.Utility

/-- The files that operands name; without operands the input. -/
def sources (operands : List Octets) : List Octets := if operands.isEmpty then [['-']] else operands

/-- Does something with the content of each file, and complains about those that cannot be read. The
status is one if there are any. -/
def eachContent (operands : List Octets) (f : Octets → Task Unit) : Task Nat := do
  let mut status := 0
  for name in sources operands do
    match ← Task.contentOrComplaint name with
    | some text => f text
    | none => status := 1
  return status

/-- The units in which counts may be given, larger ones first. -/
def countUnits : List (String × Nat) :=
  [("kB", 1000), ("KB", 1000), ("MB", 1000000), ("GB", 1000000000), ("KiB", 1024), ("MiB", 1048576),
    ("GiB", 1073741824), ("k", 1024), ("K", 1024), ("m", 1048576), ("M", 1048576), ("G", 1073741824),
    ("b", 512)]

/-- A count with its unit. -/
def scaledCount? (text : Octets) : Option Nat :=
  let digits := text.takeWhile Char.isDigit
  let unit := String.ofList (text.drop digits.length)
  (Number.natOfDigits? 10 digits).bind fun n =>
    if unit.isEmpty then some n else (countUnits.lookup unit).map (n * ·)

/-! ## Whole files -/

namespace Concatenate

def options : OptionTable :=
  ⟨"AbeEnstTuv",
    [("show-all", 'A', .none), ("number-nonblank", 'b', .none), ("show-ends", 'E', .none),
      ("number", 'n', .none), ("squeeze-blank", 's', .none), ("show-tabs", 'T', .none),
      ("show-nonprinting", 'v', .none)], true⟩

/-- A character with a mark if it cannot be seen. -/
def visible (c : Char) : Octets :=
  let low (c : Char) : Octets :=
    if c < ' ' then ['^', Char.ofNat (c.toNat + 64)] else if c = '\x7F' then ['^', '?'] else [c]
  if c.toNat < 128 then low c else 'M' :: '-' :: low (Char.ofNat (c.toNat - 128))

/-- What has been shown so far: the number of the last line, whether it was empty, and whether it has
its end. -/
structure Position where
  number : Nat
  wasBlank : Bool
  atStart : Bool

/-- A line as the options ask for it. -/
def line (p : Parsed) (position : Position) (text : Octets) : Octets × Position :=
  let body := Octets.chomp text
  let isBlank := body.isEmpty && text ≠ []
  if p.has 's' && isBlank && position.wasBlank && position.atStart then ([], position)
  else
    let all := p.has 'A'
    let shows (letters : String) : Bool := all || letters.toList.any p.has
    let number := if p.has 'b' then !isBlank else p.has 'n'
    let counted := number && position.atStart
    let next := if counted then position.number + 1 else position.number
    let front := if counted then Octets.padLeft 6 ' ' (Octets.ofNat next) ++ ['\t'] else []
    let written (c : Char) : Octets :=
      if c = '\t' then if shows "tT" then ['^', 'I'] else [c]
      else if shows "etv" then visible c else [c]
    let ended := body.length < text.length
    let rear := if ended then if shows "eE" then ['$', '\n'] else ['\n'] else []
    (front ++ body.flatMap written ++ rear, ⟨next, isBlank, ended⟩)

/-- Writes files one after the other. -/
def run (p : Parsed) : Task Nat := do
  if p.options.all fun o => o.1 = 'u' then eachContent p.operands Task.print
  else
    let mut position : Position := ⟨0, false, true⟩
    let mut status := 0
    for name in sources p.operands do
      match ← Task.contentOrComplaint name with
      | none => status := 1
      | some text =>
        for l in Octets.lines text do
          let (shown, next) := line p position l
          Task.print shown
          position := next
    return status

end Concatenate

/-! ## Beginnings and ends -/

/-- A part of a text, in octets or lines. -/
structure Extract where
  inLines : Bool
  count : Nat
  /-- Whether the count is of what is left out. -/
  isRest : Bool

namespace Extract

/-- A text as a list of its units. -/
def units (e : Extract) (text : Octets) : List Octets :=
  if e.inLines then Octets.lines text else text.map fun c => [c]

/-- The part at the beginning, and what follows it. -/
def head (e : Extract) (text : Octets) : Octets × Octets :=
  let units := e.units text
  let count := if e.isRest then units.length - e.count else e.count
  ((units.take count).flatten, (units.drop count).flatten)

/-- The part at the end. -/
def tail (e : Extract) (text : Octets) : Octets :=
  let units := e.units text
  (units.drop (if e.isRest then e.count - 1 else units.length - e.count)).flatten

end Extract

/-- Writes parts of files under their names. -/
def writeParts (p : Parsed) (write : Octets → Octets → Task Unit) : Task Nat := do
  let names := sources p.operands
  let titled := match p.last? ['q', 'v'] with
    | some 'q' => false
    | some _ => true
    | none => names.length > 1
  let mut status := 0
  let mut isFirst := true
  for name in names do
    match ← Task.openContent name with
    | .error cause =>
      Task.complain ("cannot open " ++ quoted name ++ " for reading: " ++ cause.plainMessage)
      status := 1
    | .ok content =>
      if titled then
        let title := if name = ['-'] then "standard input".toList else name
        Task.print ((if isFirst then [] else ['\n']) ++ "==> ".toList ++ title ++ " <==\n".toList)
      isFirst := false
      match content with
      | .ok text => write name text
      | .error cause =>
        Task.complain ("error reading " ++ quoted name ++ ": " ++ cause.plainMessage)
        status := 1
  return status

namespace Extract

/-- The letters and names of the options of parts. -/
def options : OptionTable :=
  ⟨"c:fn:qsvz",
    [("bytes", 'c', .required), ("follow", 'f', .none), ("lines", 'n', .required),
      ("quiet", 'q', .none), ("silent", 'q', .none), ("verbose", 'v', .none)], true⟩

/-- The part that options ask for, where a sign marks a count of what is left out. -/
def ofOptions (sign other : Char) (p : Parsed) : Except String Extract :=
  let chosen := p.options.reverse.find? fun o => o.1 = 'n' || o.1 = 'c'
  match chosen with
  | none => .ok ⟨true, 10, false⟩
  | some (letter, value) =>
    let isRest := value.head? = some sign
    let digits := if isRest || value.head? = some other then value.drop 1 else value
    match scaledCount? digits with
    | some n => .ok ⟨letter = 'n', n, isRest⟩
    | none =>
      .error ("invalid number of " ++ (if letter = 'n' then "lines: " else "bytes: ") ++ quoted value)

/-- An argument that is a count behind a sign alone, as an option. -/
def modern (signs : List Char) : List Octets → List Octets
  | (sign :: d :: more) :: rest =>
    let digits := (d :: more).takeWhile Char.isDigit
    let letters := (d :: more).drop digits.length
    if signs.contains sign && d.isDigit && letters.all "cklbfqv".toList.contains then
      let unit := if letters.contains 'c' then 'c' else 'n'
      ['-', unit] :: (if sign = '+' then sign :: digits else digits) :: rest
    else (sign :: d :: more) :: rest
  | arguments => arguments

/-- Writes the beginnings of files. -/
def runHead (p : Parsed) : Task Nat := do
  match ofOptions '-' '+' p with
  | .error message => Task.complain message; return 1
  | .ok e =>
    writeParts p fun name text => do
      let (front, rest) := e.head text
      Task.print front
      if name = ['-'] then Task.rewind rest

/-- Writes the ends of files. -/
def runTail (p : Parsed) : Task Nat := do
  match ofOptions '+' '-' p with
  | .error message => Task.complain message; return 1
  | .ok e => writeParts p fun _ text => Task.print (e.tail text)

end Extract

/-! ## Sizes -/

namespace Count

def options : OptionTable :=
  ⟨"clLmw",
    [("bytes", 'c', .none), ("chars", 'm', .none), ("lines", 'l', .none), ("words", 'w', .none),
      ("max-line-length", 'L', .none)], true⟩

/-- A character that separates words. -/
def isSpace (c : Char) : Bool := c = ' ' || '\t' ≤ c && c ≤ '\r'

/-- The number of words of a text. -/
def words (text : Octets) : Nat :=
  (text.foldl (fun (count, inWord) c =>
    if isSpace c then (count, false)
    else if inWord then (count, true)
    else if ' ' < c && c < '\x7F' then (count + 1, true)
    else (count, false)) (0, false)).1

/-- The length of the longest line, where a tab goes to the next column that eight divides. -/
def longestLine (text : Octets) : Nat :=
  let advance (state : Nat × Nat) (c : Char) : Nat × Nat :=
    let (longest, column) := state
    let next := if c = '\n' || c = '\r' || c = '\x0c' then 0
      else if c = '\t' then (column / 8 + 1) * 8
      else if ' ' ≤ c && c ≤ '~' then column + 1
      else column
    (max longest next, next)
  (text.foldl advance (0, 0)).1

/-- The counts of a text that options ask for. -/
def counts (p : Parsed) (text : Octets) : List Nat :=
  let usual := p.options.isEmpty
  let count (letter : Char) (inUsual : Bool) (n : Nat) : List Nat :=
    if p.has letter || usual && inUsual then [n] else []
  count 'l' true (text.count '\n') ++ count 'w' true (words text) ++ count 'm' false text.length
    ++ count 'c' true text.length ++ count 'L' false (longestLine text)

/-- The size by which a file widens the columns, if it is known before the file is read. -/
def knownSize (name : Octets) : Task (Option Nat) := do
  let c ← read
  let h ← get
  if name = ['-'] then
    match (c.descriptors.lookup 0).map h.stream with
    | some (.stored place _ _) => return some (h.contentAt place).length
    | _ => return none
  else
    let fs := c.files h
    if fs.isFile name.toPath then return some ((fs.read name.toPath).toOption.getD []).length
    else return if fs.holds name.toPath then none else some 0

/-- Writes the counts of files, and their sum if there are several. -/
def run (p : Parsed) : Task Nat := do
  let names := sources p.operands
  let sizes ← names.mapM knownSize
  let columns := (counts p []).length
  let width := if names.length = 1 && columns = 1 then 1
    else
      let size := (Octets.ofNat ((sizes.filterMap id).foldl Nat.add 0)).length
      if sizes.any Option.isNone then max size 7 else size
  let line (numbers : List Nat) (name : Option Octets) : Octets :=
    let texts := numbers.map fun n => Octets.padLeft width ' ' (Octets.ofNat n)
    [' '].intercalate (texts ++ name.toList)
  let mut status := 0
  let mut total := List.replicate columns 0
  for name in names do
    match ← Task.openContent name with
    | .error cause =>
      Task.complain (shown name ++ ": " ++ cause.plainMessage)
      status := 1
    | .ok content =>
      let numbers := counts p (content.toOption.getD [])
      match content with
      | .ok _ => pure ()
      | .error cause =>
        Task.complain (shown name ++ ": " ++ cause.plainMessage)
        status := 1
      Task.printLine (line numbers (if p.operands.isEmpty then none else some name))
      total := if columns = 0 then total else (total.zip numbers).map fun (a, b) => a + b
  if names.length > 1 then Task.printLine (line total (some "total".toList))
  return status

end Count

/-! ## Lines in another shape -/

/-- Writes the lines of files from the last to the first. -/
def reverseLines (p : Parsed) : Task Nat :=
  eachContent p.operands fun text => Task.print (Octets.lines text).reverse.flatten

/-- Writes each line of files from its last character to its first. -/
def reverseEach (p : Parsed) : Task Nat :=
  eachContent p.operands fun text =>
    Task.print ((Octets.lines text).flatMap fun line =>
      (Octets.chomp line).reverse ++ line.drop (Octets.chomp line).length)

namespace Fold

def options : OptionTable :=
  ⟨"bcsw:", [("bytes", 'b', .none), ("spaces", 's', .none), ("width", 'w', .required)], true⟩

/-- The column after a character. -/
def advance (inOctets : Bool) (column : Nat) (c : Char) : Nat :=
  if inOctets then column + 1
  else if c = '\t' then (column / 8 + 1) * 8
  else if c = '\x08' then column - 1
  else if c = '\r' then 0
  else column + 1

/-- Breaks a line. `line` is what stands in the part under way, last character first. `fuel` bounds
the steps. -/
def broken (inOctets atBlanks : Bool) (width : Nat) : Nat → Nat → Octets → Octets → Octets
  | 0, _, line, rest => line.reverse ++ rest
  | _, _, line, [] => line.reverse
  | fuel + 1, column, line, c :: rest =>
    let next := advance inOctets column c
    if next ≤ width || line.isEmpty then broken inOctets atBlanks width fuel next (c :: line) rest
    else
      let isBlank (c : Char) : Bool := c = ' ' || c = '\t'
      let tail := if atBlanks && line.any isBlank then line.takeWhile (!isBlank ·) else []
      let front := line.drop tail.length
      let column := tail.reverse.foldl (advance inOctets) 0
      front.reverse ++ '\n' :: broken inOctets atBlanks width fuel column tail (c :: rest)

/-- Breaks the lines of files that are too long. -/
def run (p : Parsed) : Task Nat := do
  match Number.natOfDigits? 10 ((p.value? 'w').getD "80".toList) with
  | none | some 0 =>
    Task.complain ("invalid number of columns: " ++ quoted ((p.value? 'w').getD []))
    return 1
  | some width =>
    eachContent p.operands fun text =>
      (Octets.lines text).forM fun line =>
        let body := Octets.chomp line
        Task.print (broken (p.has 'b') (p.has 's') width (2 * body.length + 1) 0 [] body
          ++ line.drop body.length)

/-- An argument that is a width behind a hyphen alone, as an option. -/
def modern : List Octets → List Octets :=
  List.map fun
    | '-' :: d :: more => if d.isDigit then '-' :: 'w' :: d :: more else '-' :: d :: more
    | argument => argument

end Fold

namespace Expand

def options : OptionTable :=
  ⟨"it:a", [("initial", 'i', .none), ("tabs", 't', .required), ("all", 'a', .none),
    ("first-only", 'F', .none)], true⟩

/-- The next column at which a tab stops. -/
def nextStop (stops : List Nat) (column : Nat) : Nat :=
  match stops with
  | [size] => (column / size + 1) * size
  | stops => (stops.find? (column < ·)).getD (column + 1)

/-- The columns at which tabs stop. -/
def stops (p : Parsed) : List Nat :=
  let given := (p.values 't').flatMap fun text =>
    (text.splitOnP fun c => c = ',' || c = ' ').filterMap (Number.natOfDigits? 10)
  if given.isEmpty || given = [0] then [8] else given

/-- A line with blanks for its tabs. -/
def line (stops : List Nat) (onlyFront : Bool) : Nat → Bool → Octets → Octets
  | _, _, [] => []
  | column, atFront, c :: rest =>
    if c = '\t' && (atFront || !onlyFront) then
      let next := nextStop stops column
      List.replicate (next - column) ' ' ++ line stops onlyFront next atFront rest
    else if c = '\x08' then c :: line stops onlyFront (column - 1) false rest
    else c :: line stops onlyFront (column + 1) (atFront && c = ' ') rest

/-- Writes files with blanks for their tabs. -/
def run (p : Parsed) : Task Nat :=
  eachContent p.operands fun text =>
    Task.print ((Octets.lines text).flatMap (line (stops p) (p.has 'i') 0 true))

/-- A line with tabs for its blanks. `pending` is the number of blanks before here that have not been
written. -/
def contracted (stops : List Nat) (everywhere : Bool) : Nat → Nat → Bool → Octets → Octets
  | _, pending, _, [] => List.replicate pending ' '
  | column, pending, atFront, c :: rest =>
    let active := atFront || everywhere
    if c = ' ' && active then
      let column := column + 1
      if nextStop stops (column - 1) = column then
        (if pending = 0 && rest.head? ≠ some ' ' then ' ' else '\t')
          :: contracted stops everywhere column 0 atFront rest
      else contracted stops everywhere column (pending + 1) atFront rest
    else if c = '\t' && active then
      '\t' :: contracted stops everywhere (nextStop stops column) 0 atFront rest
    else
      List.replicate pending ' ' ++ c :: contracted stops everywhere (column + 1) 0 false rest

/-- Writes files with tabs for their blanks. -/
def runBack (p : Parsed) : Task Nat :=
  let everywhere := (p.has 'a' || p.has 't') && !p.has 'F'
  eachContent p.operands fun text =>
    Task.print ((Octets.lines text).flatMap fun line =>
      contracted (stops p) everywhere 0 0 true (Octets.chomp line)
        ++ line.drop (Octets.chomp line).length)

end Expand

namespace NumberLines

def options : OptionTable :=
  ⟨"b:d:f:h:i:l:n:ps:v:w:",
    [("body-numbering", 'b', .required), ("line-increment", 'i', .required),
      ("number-format", 'n', .required), ("number-separator", 's', .required),
      ("starting-line-number", 'v', .required), ("number-width", 'w', .required)], true⟩

/-- Writes the lines of files with numbers. -/
def run (p : Parsed) : Task Nat := do
  let number (letter : Char) (usual : Nat) : Nat :=
    ((p.value? letter).bind (Number.natOfDigits? 10)).getD usual
  let width := number 'w' 6
  let separator := (p.value? 's').getD ['\t']
  let style := (p.value? 'b').getD ['t']
  let format := String.ofList ((p.value? 'n').getD "rn".toList)
  let written (n : Nat) : Octets :=
    let digits := Octets.ofNat n
    match format with
    | "ln" => Octets.padRight width digits
    | "rz" => Octets.padLeft width '0' digits
    | _ => Octets.padLeft width ' ' digits
  let mut next := number 'v' 1
  let mut status := 0
  for name in sources p.operands do
    match ← Task.contentOrComplaint name with
    | none => status := 1
    | some text =>
      for line in Octets.lines text do
        let body := Octets.chomp line
        if style = ['a'] || style = ['t'] && !body.isEmpty then
          Task.printLine (written next ++ separator ++ body)
          next := next + number 'i' 1
        else Task.printLine (List.replicate (width + separator.length) ' ' ++ body)
  return status

end NumberLines

end CallbackWeave.Utility

import CallbackWeave.Utility.Lines

/-!
Order of lines. Keys are parts of lines that are compared one after the other, each in a way of its own;
lines whose keys are equal are compared as a whole unless their order is to be kept.
-/

namespace CallbackWeave.Utility.Sort

/-- How parts of lines are compared. -/
structure Manner where
  skipsBlanks : Bool
  /-- Only blanks, letters and digits count. -/
  dictionary : Bool
  foldsCase : Bool
  reverse : Bool
  numeric : Bool
  general : Bool
  human : Bool
  version : Bool
  month : Bool
deriving DecidableEq, Repr, Inhabited

/-- The usual manner: octet by octet. -/
def Manner.usual : Manner := ⟨false, false, false, false, false, false, false, false, false⟩

/-- A manner with what a letter adds to it. -/
def Manner.add (m : Manner) (letter : Char) : Option Manner :=
  match letter with
  | 'b' => some { m with skipsBlanks := true }
  | 'd' => some { m with dictionary := true }
  | 'f' => some { m with foldsCase := true }
  | 'g' => some { m with general := true }
  | 'h' => some { m with human := true }
  | 'i' => some m
  | 'M' => some { m with month := true }
  | 'n' => some { m with numeric := true }
  | 'r' => some { m with reverse := true }
  | 'V' => some { m with version := true }
  | _ => none

/-- A key: the field and the character at which it begins, and those at which it ends. -/
structure Key where
  firstField : Nat
  firstChar : Nat
  lastField : Option Nat
  /-- Zero stands for the end of the field. -/
  lastChar : Nat
  manner : Option Manner
  startSkips : Bool
  endSkips : Bool
deriving Repr

def isBlank (c : Char) : Bool := c = ' ' || c = '\t' || c = '\n'

/-- The number of characters before a field. Without a separator a field begins with the blanks in
front of it. -/
def fieldStart (separator : Option Char) (fields : Nat) (line : Octets) : Nat :=
  match fields with
  | 0 => 0
  | fields + 1 =>
    let length := match separator with
      | some c =>
        let text := line.takeWhile (· ≠ c)
        if text.length < line.length then text.length + 1 else text.length
      | none =>
        let blanks := line.takeWhile isBlank
        blanks.length + ((line.drop blanks.length).takeWhile (!isBlank ·)).length
    if length = 0 then 0 else length + fieldStart separator fields (line.drop length)

/-- The number of characters up to the end of a field. -/
def fieldEnd (separator : Option Char) (field : Nat) (line : Octets) : Nat :=
  let start := fieldStart separator (field - 1) line
  let rest := line.drop start
  match separator with
  | some c => start + (rest.takeWhile (· ≠ c)).length
  | none =>
    let blanks := (rest.takeWhile isBlank).length
    start + blanks + ((rest.drop blanks).takeWhile (!isBlank ·)).length

/-- The part of a line that a key takes. -/
def Key.part (k : Key) (separator : Option Char) (line : Octets) : Octets :=
  let start := fieldStart separator (k.firstField - 1) line
  let blanks := if k.startSkips then ((line.drop start).takeWhile isBlank).length else 0
  let start := min line.length (start + blanks + (k.firstChar - 1))
  let stop := match k.lastField with
    | none => line.length
    | some field =>
      if k.lastChar = 0 then fieldEnd separator field line
      else
        let first := fieldStart separator (field - 1) line
        let blanks := if k.endSkips then ((line.drop first).takeWhile isBlank).length else 0
        min line.length (first + blanks + k.lastChar)
  (line.drop start).take (stop - start)

/-- A number as far as a text writes one: its sign, and its digits before and after the point. -/
def readNumber (text : Octets) : Int :=
  let text := text.dropWhile isBlank
  let (negative, digits) := match text with
    | '-' :: rest => (true, rest)
    | rest => (false, rest)
  let whole := digits.takeWhile Char.isDigit
  let fraction := match digits.drop whole.length with
    | '.' :: rest => rest.takeWhile Char.isDigit
    | _ => []
  let scaled := Number.natOfDecimals (whole ++ (fraction ++ List.replicate 30 '0').take 30)
  if negative then -(scaled : Int) else scaled

/-- The weight of the unit behind a number. -/
def unitWeight (text : Octets) : Nat :=
  let text := (text.dropWhile isBlank).dropWhile fun c => c = '-' || c.isDigit || c = '.'
  match text.head? with
  | some c => ("KMGTPEZY".toList.idxOf? c).map (· + 1) |>.getD (if c = 'k' then 1 else 0)
  | none => 0

/-- The number of a month. -/
def monthOf (text : Octets) : Nat :=
  let name := String.ofList (((text.dropWhile isBlank).take 3).map Char.toUpper)
  (["JAN", "FEB", "MAR", "APR", "MAY", "JUN", "JUL", "AUG", "SEP", "OCT", "NOV", "DEC"].idxOf? name).map
    (· + 1) |>.getD 0

/-- The longest beginning of a text that writes a floating-point number. -/
def readGeneral (text : Octets) : Option Float :=
  let text := text.dropWhile isBlank
  (List.range (text.length + 1)).reverse.findSome? fun n =>
    (Number.Literal.ofChars? (text.take n)).map Number.Literal.toFloat

/-- The rank of a character among versions: a tilde first, then the end, letters and others. -/
def versionRank (c : Option Char) : Nat :=
  match c with
  | some '~' => 0
  | none => 1
  | some c => if c.isDigit then 1 else if c.isAlpha then 2 + c.toNat else 258 + c.toNat

/-- Compares texts as versions, in which numbers count as such. `fuel` bounds the steps. -/
def compareVersions : Nat → Octets → Octets → Ordering
  | 0, _, _ => .eq
  | fuel + 1, a, b =>
    if a.isEmpty && b.isEmpty then .eq
    else
      let wordA := a.takeWhile (!Char.isDigit ·)
      let wordB := b.takeWhile (!Char.isDigit ·)
      let count := max wordA.length wordB.length + 1
      let ranks (word : Octets) : List Nat := (List.range count).map fun i => versionRank word[i]?
      match compare (ranks wordA) (ranks wordB) with
      | .eq =>
        let a := a.drop wordA.length
        let b := b.drop wordB.length
        let digitsA := a.takeWhile Char.isDigit
        let digitsB := b.takeWhile Char.isDigit
        match compare (Number.natOfDecimals digitsA) (Number.natOfDecimals digitsB) with
        | .eq => compareVersions fuel (a.drop digitsA.length) (b.drop digitsB.length)
        | other => other
      | other => other

/-- Compares two texts octet by octet. -/
def compareOctets (a b : Octets) : Ordering :=
  if a = b then .eq else if a.precedes b then .lt else .gt

/-- Compares two parts of lines. -/
def Manner.compare (m : Manner) (a b : Octets) : Ordering :=
  let found :=
    if m.numeric then Ord.compare (readNumber a) (readNumber b)
    else if m.general then
      match readGeneral a, readGeneral b with
      | none, none => .eq
      | none, some _ => .lt
      | some _, none => .gt
      | some x, some y => if x < y then .lt else if y < x then .gt else .eq
    else if m.human then
      let sign (n : Int) : Int := if n < 0 then -1 else if n = 0 then 0 else 1
      let weigh (text : Octets) : Int := sign (readNumber text) * (unitWeight text + 1)
      (Ord.compare (weigh a) (weigh b)).then (Ord.compare (readNumber a) (readNumber b))
    else if m.month then Ord.compare (monthOf a) (monthOf b)
    else if m.version then compareVersions (a.length + b.length + 1) a b
    else
      let prepare (text : Octets) : Octets :=
        let kept := if m.dictionary then text.filter fun c => isBlank c || c.isAlphanum else text
        if m.foldsCase then kept.map Char.toUpper else kept
      compareOctets (prepare a) (prepare b)
  if m.reverse then found.swap else found

/-- How lines are sorted. -/
structure Order where
  separator : Option Char
  keys : List Key
  manner : Manner
  stable : Bool
  unique : Bool

/-- Compares lines by their keys alone. -/
def Order.compareKeys (o : Order) (a b : Octets) : Ordering :=
  if o.keys.isEmpty then
    let trim (line : Octets) : Octets :=
      if o.manner.skipsBlanks then line.dropWhile isBlank else line
    o.manner.compare (trim a) (trim b)
  else
    o.keys.foldl (fun found k =>
      found.then ((k.manner.getD o.manner).compare (k.part o.separator a) (k.part o.separator b))) .eq

/-- Compares lines. -/
def Order.compare (o : Order) (a b : Octets) : Ordering :=
  (o.compareKeys a b).then <|
    if o.stable || o.unique then .eq
    else if o.manner.reverse then (compareOctets a b).swap
    else compareOctets a b

/-- The lines in order; of those that are equal the first one is kept if that is asked for. -/
def Order.sort (o : Order) (lines : List Octets) : List Octets :=
  let sorted := lines.mergeSort fun a b => o.compare a b != .gt
  if o.unique then
    (sorted.foldl (fun kept line =>
      match kept with
      | last :: _ => if o.compareKeys last line = .eq then kept else line :: kept
      | [] => [line]) []).reverse
  else sorted

/-- Takes the letters of a manner off the front of a text. -/
def readManner (m : Manner) : Octets → Manner × Octets
  | [] => (m, [])
  | c :: rest =>
    match m.add c with
    | some next => readManner next rest
    | none => (m, c :: rest)

/-- Reads a key. -/
def readKey (whole : Manner) (text : Octets) : Except String Key := do
  let number (text : Octets) : Nat × Octets :=
    let digits := text.takeWhile Char.isDigit
    (Number.natOfDecimals digits, text.drop digits.length)
  let position (text : Octets) (usual : Nat) : Nat × Nat × Octets :=
    let (field, rest) := number text
    match rest with
    | '.' :: rest =>
      let (char, rest) := number rest
      (field, char, rest)
    | rest => (field, usual, rest)
  let (firstField, firstChar, rest) := position text 1
  if !(text.head?.any Char.isDigit) then throw ("invalid number at field start: invalid count at start of " ++ quoted text)
  if firstField = 0 then throw ("-: invalid field specification " ++ quoted text)
  let (startManner, rest) := readManner .usual rest
  let (lastField, lastChar, endManner, rest) := match rest with
    | ',' :: rest =>
      let (field, char, rest) := position rest 0
      let (m, rest) := readManner .usual rest
      (some field, char, m, rest)
    | rest => (none, 0, Manner.usual, rest)
  if !rest.isEmpty then throw ("stray character in field spec: invalid field specification " ++ quoted text)
  let merged : Manner := ⟨false, startManner.dictionary || endManner.dictionary,
    startManner.foldsCase || endManner.foldsCase, startManner.reverse || endManner.reverse,
    startManner.numeric || endManner.numeric, startManner.general || endManner.general,
    startManner.human || endManner.human, startManner.version || endManner.version,
    startManner.month || endManner.month⟩
  let isOwn := merged ≠ .usual || startManner.skipsBlanks || endManner.skipsBlanks
  return ⟨firstField, max firstChar 1, lastField, lastChar, if isOwn then some merged else none,
    if isOwn then startManner.skipsBlanks else whole.skipsBlanks,
    if isOwn then endManner.skipsBlanks else whole.skipsBlanks⟩

def options : OptionTable :=
  ⟨"bcCdfghik:mMno:rsS:t:T:uVz",
    [("ignore-leading-blanks", 'b', .none), ("dictionary-order", 'd', .none),
      ("ignore-case", 'f', .none), ("general-numeric-sort", 'g', .none),
      ("human-numeric-sort", 'h', .none), ("ignore-nonprinting", 'i', .none),
      ("key", 'k', .required), ("merge", 'm', .none), ("month-sort", 'M', .none),
      ("numeric-sort", 'n', .none), ("output", 'o', .required), ("reverse", 'r', .none),
      ("stable", 's', .none), ("field-separator", 't', .required), ("unique", 'u', .none),
      ("version-sort", 'V', .none), ("zero-terminated", 'z', .none), ("check", 'c', .optional)], true⟩

/-- The order that options ask for. -/
def Order.ofOptions (p : Parsed) : Except String Order := do
  let manner := p.options.foldl (fun (m : Manner) (letter, _) => (m.add letter).getD m) .usual
  let keys ← (p.values 'k').mapM (readKey manner)
  let separator ← match p.value? 't' with
    | none => pure none
    | some [c] => pure (some c)
    | some ['\\', '0'] => pure (some '\x00')
    | some [] => throw "empty tab"
    | some text => throw ("multi-character tab " ++ quoted text)
  return ⟨separator, keys, manner, p.has 's', p.has 'u'⟩

/-- The first line that stands behind one that it should come before, with its number. -/
def disorder? (o : Order) : Nat → List Octets → Option (Nat × Octets)
  | number, a :: b :: rest =>
    let found := if o.unique then o.compareKeys a b else o.compare a b
    if found = .gt || o.unique && found = .eq then some (number + 1, b)
    else disorder? o (number + 1) (b :: rest)
  | _, _ => none

/-- Sorts the lines of files. -/
def run (p : Parsed) : Task Nat := do
  match Order.ofOptions p with
  | .error message => Task.complain message; return 2
  | .ok o =>
    let ending : Char := if p.has 'z' then '\x00' else '\n'
    let mut lines : List Octets := []
    for name in sources p.operands do
      match ← Task.openContent name with
      | .error cause =>
        Task.complain ("cannot read: " ++ name.toText ++ ": " ++ cause.plainMessage)
        return 2
      | .ok (.error cause) =>
        Task.complain ("read failed: " ++ name.toText ++ ": " ++ cause.plainMessage)
        return 2
      | .ok (.ok text) =>
        let parts := text.splitOn ending
        lines := lines ++ (if text.getLast? = some ending || text.isEmpty then parts.dropLast else parts)
    if p.has 'c' || p.has 'C' then
      match disorder? o 1 lines with
      | none => return 0
      | some (number, line) =>
        if p.has 'c' then
          let name := (sources p.operands).headD []
          Task.complain (name.toText ++ ":" ++ toString number ++ ": disorder: " ++ line.toText)
        return 1
    let output := (o.sort lines).flatMap (· ++ [ending])
    match p.value? 'o' with
    | none => Task.print output; return 0
    | some name =>
      match ← Task.store name output with
      | none => return 0
      | some cause =>
        Task.complain ("open failed: " ++ name.toText ++ ": " ++ cause.plainMessage)
        return 2

end CallbackWeave.Utility.Sort

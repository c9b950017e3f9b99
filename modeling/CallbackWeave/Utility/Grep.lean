import CallbackWeave.Regex.Reader
import CallbackWeave.Utility.Launching

/-!
Lines in which something is found. What is looked for is given by expressions or by plain texts; of
several the one that is found first counts, and the longest of those.
-/

namespace CallbackWeave.Utility.Grep

def options : OptionTable :=
  ⟨"A:B:C:EFGPHILTUVZabce:f:hilm:noqrRsuvwxyz0123456789",
    [("extended-regexp", 'E', .none), ("fixed-strings", 'F', .none), ("basic-regexp", 'G', .none),
      ("perl-regexp", 'P', .none), ("regexp", 'e', .required), ("file", 'f', .required),
      ("ignore-case", 'i', .none), ("no-ignore-case", 'y', .none), ("word-regexp", 'w', .none),
      ("line-regexp", 'x', .none), ("no-messages", 's', .none), ("invert-match", 'v', .none),
      ("max-count", 'm', .required), ("byte-offset", 'b', .none), ("line-number", 'n', .none),
      ("line-buffered", 'u', .none), ("with-filename", 'H', .none), ("no-filename", 'h', .none),
      ("label", 'W', .required), ("only-matching", 'o', .none), ("quiet", 'q', .none),
      ("silent", 'q', .none), ("text", 'a', .none), ("recursive", 'r', .none),
      ("dereference-recursive", 'R', .none), ("include", 'J', .required),
      ("exclude", 'K', .required), ("exclude-dir", 'M', .required), ("files-without-match", 'L', .none),
      ("files-with-matches", 'l', .none), ("count", 'c', .none), ("after-context", 'A', .required),
      ("before-context", 'B', .required), ("context", 'C', .required), ("color", 'Y', .optional),
      ("colour", 'Y', .optional), ("null", 'Z', .none), ("null-data", 'z', .none)], true⟩

/-- How lines are looked at. -/
structure Search where
  patterns : List Regex
  foldsCase : Bool
  wholeWords : Bool
  wholeLines : Bool

namespace Search

/-- The ends of the fits of some patterns that begin at an index and are allowed. -/
def endsAt (s : Search) (subject : Subject) (i : Nat) : List Nat :=
  let found := (s.patterns.flatMap fun r => r.ends subject ⟨i, []⟩).map Found.stop
  let allowed (stop : Nat) : Bool :=
    (!s.wholeLines || i = 0 && stop = subject.text.size)
      && (!s.wholeWords || !(i > 0 && subject.hasWordAt (i - 1)) && !subject.hasWordAt stop)
  found.filter allowed

/-- The first fit that begins at an index or behind it. `count` is the number of places at which it may
begin. -/
def findFrom (s : Search) (subject : Subject) : Nat → Nat → Option (Nat × Nat)
  | 0, _ => none
  | count + 1, i =>
    match s.endsAt subject i with
    | [] => findFrom s subject count (i + 1)
    | first :: others => some (i, others.foldl max first)

/-- All parts of a line that fit, without empty ones. `fuel` bounds their number. -/
def allParts (s : Search) (subject : Subject) : Nat → Nat → List (Nat × Nat)
  | 0, _ => []
  | fuel + 1, i =>
    match s.findFrom subject (subject.text.size + 1 - i) i with
    | none => []
    | some (start, stop) =>
      if start = stop then allParts s subject fuel (start + 1)
      else (start, stop) :: allParts s subject fuel stop

/-- Whether something is found in a line. -/
def selects (s : Search) (line : Octets) : Bool :=
  let subject := Subject.ofText line s.foldsCase
  (s.findFrom subject (subject.text.size + 1) 0).isSome

end Search

/-- A plain text as an expression. -/
def plain (text : Octets) : Regex := text.foldr (fun c r => .both (.one c) r) .empty

/-- The way of writing expressions that options ask for. -/
def dialect (extended : Bool) : Regex.Dialect := ⟨extended, true, false, true, true⟩

/-- What is looked for. -/
def Search.ofOptions (p : Parsed) (name : Octets) (patterns : List Octets) : Except String Search := do
  let base := String.ofList (lastName name)
  let kind := (p.last? ['E', 'F', 'G', 'P']).getD
    (if base = "egrep" then 'E' else if base = "fgrep" then 'F' else 'G')
  let read (text : Octets) : Except String Regex :=
    if kind = 'F' then .ok (plain text)
    else
      match Regex.read (dialect (kind ≠ 'G')) text with
      | .ok r => .ok r
      | .error fault => .error fault.message
  let lines := patterns.flatMap fun text => text.splitOn '\n'
  return ⟨← lines.mapM read, p.has 'i' || p.has 'y', p.has 'w', p.has 'x'⟩

/-- How found lines are written. -/
structure Report where
  title : Option Octets
  numbers : Bool
  offsets : Bool
  before : Nat
  after : Nat
  ending : Char
  nulTitle : Bool

/-- What stands in front of a line; the sign tells a found line from one around it. -/
def Report.front (r : Report) (sign : Char) (number offset : Nat) : Octets :=
  (match r.title with
    | some title => title ++ [if r.nulTitle then '\x00' else sign]
    | none => [])
    ++ (if r.numbers then Octets.ofNat number ++ [sign] else [])
    ++ (if r.offsets then Octets.ofNat offset ++ [sign] else [])

/-- A line with its number, its offset and whether it was found. -/
structure Seen where
  line : Octets
  number : Nat
  offset : Nat
  found : Bool

/-- Lines with their numbers and offsets, looked at up to a number of found ones; those behind it count
as not found. -/
def look (selects : Octets → Bool) : Nat → Nat → Option Nat → List Octets → List Seen
  | _, _, _, [] => []
  | number, offset, left, line :: rest =>
    let found := left ≠ some 0 && selects line
    let left := if found then left.map (· - 1) else left
    ⟨line, number, offset, found⟩ :: look selects (number + 1) (offset + line.length + 1) left rest

/-- Whether a line is near enough to a found one to be written: given how far away the last one was. -/
def nearness (before after : Nat) (lines : List Seen) : List Bool :=
  let within (distance : Nat) (found : List Bool) : List Bool :=
    (found.foldl (fun (state : List Bool × Nat) b =>
      let left := if b then distance + 1 else state.2
      ((left > 0) :: state.1, left - 1)) ([], 0)).1.reverse
  let found := lines.map Seen.found
  let forwards := within after found
  let backwards := (within before found.reverse).reverse
  (forwards.zip backwards).map fun (a, b) => a || b

/-- Writes the found parts of lines, or the lines and those around them. -/
def write (p : Parsed) (s : Search) (r : Report) (lines : List Seen) : Task Unit := do
  if p.has 'o' then
    for seen in lines do
      if seen.found && !p.has 'v' then
        let subject := Subject.ofText seen.line s.foldsCase
        for (start, stop) in s.allParts subject (seen.line.length + 1) 0 do
          Task.print (r.front ':' seen.number (seen.offset + start) ++ subject.slice start stop
            ++ [r.ending])
  else
    let mut last : Nat := 0
    for (seen, isNear) in lines.zip (nearness r.before r.after lines) do
      if isNear then
        if r.before + r.after > 0 && last > 0 && last + 1 < seen.number then
          Task.print "--\n".toList
        last := seen.number
        Task.print (r.front (if seen.found then ':' else '-') seen.number seen.offset ++ seen.line
          ++ [r.ending])

/-- The files below a directory, in the order of their names. -/
def filesBelow (p : Parsed) (tree : FileTree) (title : Octets) (place : Location) : List Octets :=
  let fits (patterns : List Octets) (name : Octets) : Bool :=
    patterns.any fun text => (Find.patternOf text).fits name
  let paths := (tree.below place).filterMap fun (names, entry) =>
    let path := names.map Octets.ofText
    let name := path.getLast?.getD []
    let isWanted := (p.values 'J').isEmpty || fits (p.values 'J') name
    let isRefused := fits (p.values 'K') name || path.dropLast.any (fits (p.values 'M'))
    match entry with
    | .file _ _ => if isWanted && !isRefused then some path else none
    | .link _ => if p.has 'R' && isWanted && !isRefused then some path else none
    | .directory => none
  let texts := paths.map (['/'].intercalate ·)
  let sorted := texts.mergeSort fun a b => !Octets.precedes b a
  if title.isEmpty then sorted else sorted.map (within title)

/-- Looks into a text. The results are whether lines were found, and what has not been used of the
text. -/
def searchText (p : Parsed) (s : Search) (r : Report) (name : Octets) (text : Octets) :
    Task (Bool × Octets) := do
  let lines := text.splitOn r.ending
  let lines := if lines.getLast? = some [] then lines.dropLast else lines
  let onlyNames := p.has 'l' || p.has 'L'
  let most := if p.has 'q' || onlyNames then some 1
    else (p.value? 'm').bind (Number.natOfDigits? 10)
  let seen := look (fun line => s.selects line != p.has 'v') 1 0 most lines
  let count := (seen.filter Seen.found).length
  let found := count > 0
  let nameEnd := if r.nulTitle then '\x00' else '\n'
  let isFull := most.any (· ≤ count)
  let last? := (seen.filter Seen.found).getLast?
  let used := if !isFull then text.length
    else match last? with
      | some last => last.offset + last.line.length + 1
      | none => 0
  let written := if isFull then seen.take ((last?.map Seen.number).getD 0 + r.after) else seen
  if p.has 'q' then pure ()
  else if onlyNames then
    if found = p.has 'l' then Task.print (name ++ [nameEnd])
  else if p.has 'c' then
    let title := match r.title with
      | some title => title ++ [if r.nulTitle then '\x00' else ':']
      | none => []
    Task.printLine (title ++ Octets.ofNat count)
  else if text.contains '\x00' && !p.has 'a' && r.ending = '\n' then
    if found then Task.printLine ("grep: ".toList ++ name ++ ": binary file matches".toList)
  else write p s r written
  return (found, text.drop used)

/-- Looks for lines in files. -/
def search (p : Parsed) (patterns : List Octets) (operands : List Octets) : Task Nat := do
  match Search.ofOptions p (← read).name patterns with
  | .error message => Task.complain message; return 2
  | .ok s =>
    let recursive := p.has 'r' || p.has 'R'
    let names := if operands.isEmpty then if recursive then [[]] else [['-']] else operands
    let number (letter : Char) : Option Nat := (p.value? letter).bind (Number.natOfDigits? 10)
    let digits := (p.options.map Prod.fst).filter Char.isDigit
    let around := (number 'C').getD (Number.natOfDecimals digits)
    let tree := (← get).tree
    let mut files : List Octets := []
    for name in names do
      let path := if name.isEmpty then ['.'] else name
      match ← (if recursive && name ≠ ['-'] then targetOf path else pure (.error .noSuchEntry)) with
      | .ok ⟨place, some .directory⟩ => files := files ++ filesBelow p tree name place
      | _ => files := files ++ [name]
    let titled := match p.last? ['H', 'h'] with
      | some 'H' => true
      | some _ => false
      | none => names.length > 1 || recursive
    let mut anyFound := false
    let mut failed := false
    for name in files do
      if !(anyFound && p.has 'q') then
        let label := if name = ['-'] then (p.value? 'W').getD "(standard input)".toList else name
        let report : Report :=
          ⟨if titled then some label else none, p.has 'n', p.has 'b', (number 'B').getD around,
            (number 'A').getD around, if p.has 'z' then '\x00' else '\n', p.has 'Z'⟩
        match ← Task.content name with
        | .ok text =>
          let (found, rest) ← searchText p s report label text
          if name = ['-'] then Task.rewind rest
          if found != p.has 'L' then anyFound := true
        | .error cause =>
          if !p.has 's' then Task.complain (name.toText ++ ": " ++ cause.plainMessage)
          failed := true
    return if anyFound && p.has 'q' then 0 else if failed then 2 else if anyFound then 0 else 1

/-- Looks for lines; what is looked for is given by options or is the first operand. -/
def run (p : Parsed) : Task Nat := do
  let usage : Task Nat := do
    Task.writeTo 2 ("Usage: grep [OPTION]... PATTERNS [FILE]...\n".toList
      ++ "Try 'grep --help' for more information.\n".toList)
    return 2
  match p.values 'f' with
  | [] =>
    match p.values 'e', p.operands with
    | [], [] => usage
    | [], pattern :: files => search p [pattern] files
    | patterns, files => search p patterns files
  | names =>
    let contents ← names.mapM Task.contentOrComplaint
    if contents.any Option.isNone then return 2
    let lines := (contents.filterMap id).flatMap fun text => (Octets.lines text).map Octets.chomp
    search p (p.values 'e' ++ if lines.isEmpty then [] else [['\n'].intercalate lines]) p.operands

end CallbackWeave.Utility.Grep

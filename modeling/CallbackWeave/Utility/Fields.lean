import CallbackWeave.Text.CharacterClass
import CallbackWeave.Utility.Lines
import CallbackWeave.Utility.Printf

/-!
Programs that take lines apart, put them together and compare them with their neighbours.
-/

namespace CallbackWeave.Utility

/-- The lines of a text without their ends. -/
def bodies (text : Octets) : List Octets := (Octets.lines text).map Octets.chomp

/-! ## Parts of lines -/

namespace Cut

/-- A range of numbers; one without an end has none. -/
structure Range where
  first : Nat
  last : Option Nat
deriving Repr

/-- Whether a range holds a number. -/
def Range.holds (r : Range) (n : Nat) : Bool := r.first ≤ n && r.last.all (n ≤ ·)

/-- Reads a list of ranges. -/
def readRanges (isField : Bool) (text : Octets) : Except String (List Range) :=
  (text.splitOnP fun c => c = ',' || c = ' ').mapM fun part => do
    let number (digits : Octets) : Except String Nat :=
      match Number.natOfDigits? 10 digits with
      | some 0 =>
        .error (if isField then "fields are numbered from 1"
          else "byte/character positions are numbered from 1")
      | some n => .ok n
      | none =>
        .error ((if isField then "invalid field value " else "invalid byte/character position ")
          ++ quoted digits)
    match Octets.splitAt '-' part with
    | (only, none) => let n ← number only; return ⟨n, some n⟩
    | ([], some []) => throw "invalid range with no endpoint: -"
    | ([], some last) => return ⟨1, some (← number last)⟩
    | (first, some []) => return ⟨← number first, none⟩
    | (first, some last) =>
      let a ← number first
      let b ← number last
      if b < a then throw "invalid decreasing range" else return ⟨a, some b⟩

def options : OptionTable :=
  ⟨"b:c:d:f:nsz",
    [("bytes", 'b', .required), ("characters", 'c', .required), ("delimiter", 'd', .required),
      ("fields", 'f', .required), ("complement", 'C', .none), ("only-delimited", 's', .none),
      ("output-delimiter", 'O', .required)], true⟩

/-- The chosen ones of some parts, in runs of neighbours. -/
def choose (chosen : Nat → Bool) (parts : List Octets) : List Octets :=
  (parts.zipIdx.filter fun (_, i) => chosen (i + 1)).map Prod.fst

/-- The chosen characters of a line, with a separator between those that were apart. -/
def chooseRuns (chosen : Nat → Bool) (separator : Octets) (line : Octets) : Octets :=
  let picked := (line.zipIdx.filter fun (_, i) => chosen (i + 1))
  (picked.foldl (fun (state : Octets × Option Nat) (c, i) =>
    let gap := match state.2 with
      | some last => if last + 1 = i then [] else separator
      | none => []
    (state.1 ++ gap ++ [c], some i)) ([], none)).1

/-- Writes parts of the lines of files. -/
def run (p : Parsed) : Task Nat := do
  let kinds := p.options.filter fun o => ['b', 'c', 'f'].contains o.1
  match kinds with
  | [] => misuse 1 "you must specify a list of bytes, characters, or fields"
  | _ :: _ :: _ => misuse 1 "only one list may be specified"
  | [(letter, list)] =>
    let isField := letter = 'f'
    if !isField && p.has 'd' then
      return ← misuse 1 "an input delimiter may be specified only when operating on fields"
    match readRanges isField list, (p.value? 'd').getD ['\t'] with
    | .error message, _ => misuse 1 message
    | .ok _, _ :: _ :: _ => misuse 1 "the delimiter must be a single character"
    | .ok ranges, delimiter =>
      let separator := delimiter.headD '\x00'
      let chosen (n : Nat) : Bool := (ranges.any (·.holds n)) != p.has 'C'
      let output := (p.value? 'O').getD (if isField then [separator] else [])
      eachContent p.operands fun text =>
        (bodies text).forM fun line =>
          if !isField then Task.printLine (chooseRuns chosen output line)
          else if line.contains separator then
            Task.printLine (output.intercalate (choose chosen (line.splitOn separator)))
          else if p.has 's' then pure ()
          else Task.printLine line

end Cut

/-! ## Lines side by side -/

namespace Paste

def options : OptionTable :=
  ⟨"d:sz", [("delimiters", 'd', .required), ("serial", 's', .none)], true⟩

/-- The delimiters that a text lists; a zero behind a backslash stands for none. -/
def delimiters : Octets → List Octets
  | '\\' :: c :: rest =>
    (match c with
      | '0' => []
      | 'n' => ['\n']
      | 't' => ['\t']
      | c => [c]) :: delimiters rest
  | c :: rest => [c] :: delimiters rest
  | [] => []

/-- Texts with delimiters between them, which are used in turn. -/
def joined (delimiters : List Octets) (texts : List Octets) : Octets :=
  (texts.zipIdx.map fun (text, i) =>
    if i = 0 then text else delimiters.getD ((i - 1) % max delimiters.length 1) [] ++ text).flatten

/-- Lines side by side. `fuel` bounds their number. -/
def rows (delimiters : List Octets) : Nat → List (List Octets) → List Octets
  | 0, _ => []
  | fuel + 1, columns =>
    if columns.all List.isEmpty then []
    else
      joined delimiters (columns.map fun column => column.headD [])
        :: rows delimiters fuel (columns.map (List.drop 1))

/-- Writes the lines of files side by side. -/
def run (p : Parsed) : Task Nat := do
  let marks := delimiters ((p.value? 'd').getD ['\t'])
  let mut status := 0
  let mut columns : List (List Octets) := []
  let names := sources p.operands
  let mut shared : List Octets := []
  if names.contains ['-'] then shared := bodies ((← Task.readAll 0).toOption.getD [])
  let inputs := names.count ['-']
  let mut seen := 0
  for name in names do
    if name = ['-'] then
      let own := shared.zipIdx.filterMap fun (line, i) => if i % inputs = seen then some line else none
      columns := columns ++ [if p.has 's' then (if seen = 0 then shared else []) else own]
      seen := seen + 1
    else
      match ← Task.contentOrComplaint name with
      | some text => columns := columns ++ [bodies text]
      | none => status := 1
  if p.has 's' then columns.forM fun column => Task.printLine (joined marks column)
  else if status = 0 then
    let most := (columns.map List.length).foldl max 0
    (rows marks most columns).forM Task.printLine
  return status

end Paste

/-! ## Lines that occur in two files -/

namespace Common

def options : OptionTable :=
  ⟨"123z", [("output-delimiter", 'O', .required), ("check-order", 'c', .none),
    ("nocheck-order", 'k', .none), ("total", 't', .none)], true⟩

/-- Lines of two files in order, each with the column in which it stands. `fuel` bounds them. -/
def merged : Nat → List Octets → List Octets → List (Nat × Octets)
  | 0, _, _ => []
  | _, [], others => others.map fun line => (2, line)
  | _, lines, [] => lines.map fun line => (1, line)
  | fuel + 1, a :: rest, b :: others =>
    if a = b then (3, a) :: merged fuel rest others
    else if a.precedes b then (1, a) :: merged fuel rest (b :: others)
    else (2, b) :: merged fuel (a :: rest) others

/-- Writes the lines that one file, the other, or both of them have. -/
def run (p : Parsed) : Task Nat := do
  match p.operands with
  | [a, b] =>
    match ← Task.contentOrComplaint a, ← Task.contentOrComplaint b with
    | some left, some right =>
      let hidden (column : Nat) : Bool := p.has (Char.ofNat (48 + column))
      let separator := (p.value? 'O').getD ['\t']
      let left := bodies left
      let right := bodies right
      for (column, line) in merged (left.length + right.length) left right do
        if !hidden column then
          let before := (List.range (column - 1)).filter fun i => !hidden (i + 1)
          Task.printLine ((before.map fun _ => separator).flatten ++ line)
      return 0
    | _, _ => return 1
  | [] => misuse 1 "missing operand"
  | [a] => misuse 1 ("missing operand after " ++ quoted a)
  | _ :: _ :: extra :: _ => misuse 1 ("extra operand " ++ quoted extra)

end Common

/-! ## Repeated lines -/

namespace Unique

def options : OptionTable :=
  ⟨"cdDf:is:uw:z",
    [("count", 'c', .none), ("repeated", 'd', .none), ("all-repeated", 'D', .optional),
      ("skip-fields", 'f', .required), ("ignore-case", 'i', .none), ("skip-chars", 's', .required),
      ("unique", 'u', .none), ("check-chars", 'w', .required)], true⟩

/-- A line without its first fields, each with the blanks in front of it. -/
def dropFields : Nat → Octets → Octets
  | 0, line => line
  | n + 1, line =>
    let isBlank (c : Char) : Bool := c = ' ' || c = '\t'
    dropFields n ((line.dropWhile isBlank).dropWhile (!isBlank ·))

/-- The part of a line that is compared. -/
def part (p : Parsed) (line : Octets) : Octets :=
  let number (letter : Char) : Option Nat := (p.value? letter).bind (Number.natOfDigits? 10)
  let rest := (dropFields ((number 'f').getD 0) line).drop ((number 's').getD 0)
  let rest := match number 'w' with
    | some n => rest.take n
    | none => rest
  if p.has 'i' then rest.map Char.toLower else rest

/-- Writes lines, of equal neighbours only one. -/
def run (p : Parsed) : Task Nat := do
  let source := p.operands.headD ['-']
  match ← Task.contentOrComplaint source with
  | none => return 1
  | some text =>
    let groups := (bodies text).splitBy fun a b => part p a = part p b
    let output := groups.flatMap fun group =>
      let isRepeated := group.length > 1
      if p.has 'D' then if isRepeated then group.flatMap (· ++ ['\n']) else []
      else if p.has 'd' && !isRepeated || p.has 'u' && isRepeated then []
      else
        let count := if p.has 'c' then Octets.padLeft 7 ' ' (Octets.ofNat group.length) ++ [' '] else []
        count ++ group.headD [] ++ ['\n']
    match p.operands with
    | _ :: target :: _ =>
      match ← Task.store target output with
      | none => return 0
      | some cause =>
        Task.complain (target.toText ++ ": " ++ cause.plainMessage)
        return 1
    | _ =>
      Task.print output
      return 0

end Unique

/-! ## Characters for others -/

namespace Translate

def options : OptionTable :=
  ⟨"cCdst",
    [("complement", 'c', .none), ("delete", 'd', .none), ("squeeze-repeats", 's', .none),
      ("truncate-set1", 't', .none)], false⟩

/-- A piece of a set. -/
inductive Piece where
  | chars (text : Octets)
  | named (kind : Text.CharacterClass)
  /-- A character so often, or as often as needed. -/
  | repeated (c : Char) (count : Option Nat)

/-- Takes a character that may be escaped. -/
def readChar : Octets → Option (Char × Octets)
  | [] => none
  | '\\' :: c :: rest =>
    match Printf.letterEscapes.lookup c with
    | some d => if c = 'e' then some (c, rest) else some (d, rest)
    | none =>
      if (Number.digitValue? 8 c).isSome then
        let (found, rest) := Printf.numberEscape 8 3 (c :: rest)
        found.head?.map fun d => (d, rest)
      else some (c, rest)
  | c :: rest => some (c, rest)

/-- Takes what brackets in a set stand for. -/
def readBrackets : Octets → Option (Piece × Octets)
  | '[' :: ':' :: rest =>
    (Text.splitClass? rest).map fun (kind, rest) => (.named kind, rest)
  | '[' :: '=' :: c :: '=' :: ']' :: rest => some (.chars [c], rest)
  | '[' :: rest =>
    match readChar rest with
    | some (c, '*' :: rest) =>
      let digits := rest.takeWhile Char.isDigit
      match rest.drop digits.length with
      | ']' :: rest =>
        let base := if digits.head? = some '0' then 8 else 10
        let count := (Number.natOfDigits? base digits).getD 0
        some (.repeated c (if count = 0 then none else some count), rest)
      | _ => none
    | _ => none
  | _ => none

/-- The pieces of a set. `fuel` bounds their number. -/
def pieces : Nat → Octets → Except String (List Piece)
  | 0, _ => .ok []
  | _, [] => .ok []
  | fuel + 1, text => do
    match readBrackets text with
    | some (piece, rest) => return piece :: (← pieces fuel rest)
    | none =>
      match readChar text with
      | none => return []
      | some (first, '-' :: rest) =>
        match readChar rest with
        | some (last, rest) =>
          if last < first then
            throw ("range-endpoints of '" ++ (Octets.toText [first]) ++ "-" ++ Octets.toText [last]
              ++ "' are in reverse collating sequence order")
          let range := (List.range (last.toNat - first.toNat + 1)).map fun i =>
            Char.ofNat (first.toNat + i)
          return .chars range :: (← pieces fuel rest)
        | none => return [.chars [first, '-']]
      | some (c, rest) => return .chars [c] :: (← pieces fuel rest)

/-- All octets. -/
def everything : Octets := (List.range 256).map Char.ofNat

/-- The characters of pieces; what is repeated as often as needed fills up to a length. -/
def characters (length : Nat) (found : List Piece) : Octets :=
  let size : Piece → Nat
    | .chars text => text.length
    | .named kind => (everything.filter kind.holds).length
    | .repeated _ count => count.getD 0
  let known := found.foldl (fun total piece => total + size piece) 0
  found.flatMap fun
    | .chars text => text
    | .named kind => everything.filter kind.holds
    | .repeated c count => List.replicate (count.getD (length - known)) c

/-- Drops repeated characters that a set holds. -/
def squeeze (set : Octets) : Option Char → Octets → Octets
  | _, [] => []
  | last, c :: rest =>
    if last = some c && set.contains c then squeeze set last rest else c :: squeeze set (some c) rest

/-- Writes the input with other characters. -/
def run (p : Parsed) : Task Nat := do
  let read (text : Octets) : Except String (List Piece) := pieces (text.length + 1) text
  let deletes := p.has 'd'
  let squeezes := p.has 's'
  let complement := p.has 'c' || p.has 'C'
  let least := if deletes == squeezes then 2 else 1
  let most := if deletes && !squeezes then 1 else 2
  let note (text : String) : Task Nat := do
    Task.writeTo 2 (text.toList ++ ['\n'])
    return 1
  match p.operands with
  | [] => misuse 1 "missing operand"
  | first :: others =>
    if others.length + 1 < least then
      Task.complain ("missing operand after " ++ quoted first)
      if deletes then
        let _ ← note "Two strings must be given when both deleting and squeezing repeats."
      else
        let _ ← note "Two strings must be given when translating."
      Task.writeTo 2 ("Try '".toList ++ (← MonadReader.read).name ++ " --help' for more information.\n".toList)
      return 1
    match others.drop (most - 1) with
    | extra :: _ =>
      Task.complain ("extra operand " ++ quoted extra)
      if deletes then
        let _ ← note "Only one string may be given when deleting without squeezing repeats."
      Task.writeTo 2 ("Try '".toList ++ (← MonadReader.read).name ++ " --help' for more information.\n".toList)
      return 1
    | [] =>
      match read first, read (others.headD []) with
      | .error message, _ | _, .error message => Task.complain message; return 1
      | .ok found, .ok second =>
        let set := characters 0 found
        let set := if complement then everything.filter (!set.contains ·) else set
        let text := (← Task.readAll 0).toOption.getD []
        if deletes then
          let kept := text.filter (!set.contains ·)
          Task.print (if squeezes then squeeze (characters 0 second) none kept else kept)
          return 0
        else if others.isEmpty then
          Task.print (squeeze set none text)
          return 0
        else
          let target := characters set.length second
          if target.isEmpty then
            Task.complain "when not truncating set1, string2 must be non-empty"
            return 1
          let set := if p.has 't' then set.take target.length else set
          let last := target.getLast?.getD ' '
          let table := (set.zipIdx.map fun (c, i) => (c, target.getD i last)).reverse
          let translated := text.map fun c => (table.lookup c).getD c
          Task.print (if squeezes then squeeze target none translated else translated)
          return 0

end Translate

end CallbackWeave.Utility

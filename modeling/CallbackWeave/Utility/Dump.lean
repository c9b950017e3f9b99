import CallbackWeave.Utility.Lines

/-!
Programs that show octets as numbers or as letters that can be sent: dumps in columns, and texts in an
alphabet of sixty-four letters.
-/

namespace CallbackWeave.Utility

/-! ## Dumps -/

namespace Dump

/-- How units are shown. -/
inductive Style where
  | octal
  | hexadecimal
  | signed
  | unsigned
  | character
  | named
deriving DecidableEq, Repr

/-- One way to show what is read: the style, the number of octets of a unit, and whether the
characters that can be shown stand behind. -/
structure Column where
  style : Style
  size : Nat
  shown : Bool
deriving Repr

def options : OptionTable :=
  ⟨"A:j:N:S:t:vw::abcdfFhHiIlLoOsxX",
    [("address-radix", 'A', .required), ("skip-bytes", 'j', .required), ("read-bytes", 'N', .required),
      ("format", 't', .required), ("output-duplicates", 'v', .none), ("width", 'w', .optional)], true⟩

/-- The number of octets of a unit of a size that is given by a letter. -/
def sizeLetters : List (Char × Nat) := [('C', 1), ('S', 2), ('I', 4), ('L', 8)]

/-- Reads the columns that a format asks for. -/
def columns : Nat → Octets → Option (List Column)
  | _, [] => some []
  | 0, _ => none
  | fuel + 1, letter :: rest =>
    let style? : Option Style :=
      [('o', .octal), ('x', .hexadecimal), ('d', .signed), ('u', .unsigned), ('c', .character),
        ('a', .named)].lookup letter
    style?.bind fun style =>
      let (size, rest) : Option Nat × Octets :=
        if style = .character || style = .named then (some 1, rest)
        else
          match rest with
          | c :: more =>
            match sizeLetters.lookup c with
            | some n => (some n, more)
            | none =>
              let digits := rest.takeWhile Char.isDigit
              if digits.isEmpty then (some 4, rest)
              else (Number.natOfDigits? 10 digits, rest.drop digits.length)
          | [] => (some 4, [])
      let shown := rest.head? = some 'z'
      let rest := if shown then rest.drop 1 else rest
      (size.filter fun n => [1, 2, 4, 8].contains n).bind fun n =>
        (columns fuel rest).map (⟨style, n, shown⟩ :: ·)

/-- The columns of the options of a single letter. -/
def shortColumns : List (Char × Column) :=
  [('a', ⟨.named, 1, false⟩), ('b', ⟨.octal, 1, false⟩), ('c', ⟨.character, 1, false⟩),
    ('d', ⟨.unsigned, 2, false⟩), ('i', ⟨.signed, 4, false⟩), ('l', ⟨.signed, 8, false⟩),
    ('o', ⟨.octal, 2, false⟩), ('s', ⟨.signed, 2, false⟩), ('x', ⟨.hexadecimal, 2, false⟩),
    ('h', ⟨.hexadecimal, 2, false⟩), ('I', ⟨.signed, 8, false⟩), ('L', ⟨.signed, 8, false⟩),
    ('O', ⟨.octal, 4, false⟩), ('X', ⟨.hexadecimal, 4, false⟩), ('H', ⟨.hexadecimal, 4, false⟩)]

/-- The names of octets that are no letters. -/
def names : List String :=
  ["nul", "soh", "stx", "etx", "eot", "enq", "ack", "bel", "bs", "ht", "nl", "vt", "ff", "cr", "so", "si",
    "dle", "dc1", "dc2", "dc3", "dc4", "nak", "syn", "etb", "can", "em", "sub", "esc", "fs", "gs", "rs",
    "us", "sp"]

/-- The letters that stand for octets that cannot be shown. -/
def letters : List (Nat × String) :=
  [(0, "\\0"), (7, "\\a"), (8, "\\b"), (9, "\\t"), (10, "\\n"), (11, "\\v"), (12, "\\f"), (13, "\\r")]

/-- The digits of a number in a base, padded to a width. -/
def digits (base width n : Nat) : Octets := Octets.padLeft width '0' (Nat.toDigits base n)

namespace Column

/-- The width of a unit with the space before it. -/
def width (c : Column) : Nat :=
  match c.style, c.size with
  | .octal, 1 => 4 | .octal, 2 => 7 | .octal, 4 => 12 | .octal, _ => 23
  | .hexadecimal, n => 2 * n + 1
  | .signed, 1 => 5 | .signed, 2 => 7 | .signed, 4 => 12 | .signed, _ => 21
  | .unsigned, 1 => 4 | .unsigned, 2 => 6 | .unsigned, 4 => 11 | .unsigned, _ => 21
  | .character, _ | .named, _ => 4

/-- A unit as it is shown. The first octet counts least. -/
def unit (c : Column) (octets : Octets) : Octets :=
  let n := octets.reverse.foldl (fun total o => total * 256 + o.toNat) 0
  match c.style with
  | .octal => digits 8 (c.width - 1) n
  | .hexadecimal => digits 16 (c.width - 1) n
  | .unsigned => Octets.ofNat n
  | .signed =>
    let half := Nat.pow 2 (8 * c.size - 1)
    Octets.ofInt (if n < half then (n : Int) else n - 2 * half)
  | .character =>
    match letters.lookup n with
    | some text => text.toList
    | none => if 32 ≤ n && n < 127 then [Char.ofNat n] else digits 8 3 n
  | .named =>
    let n := n % 128
    if n = 127 then "del".toList
    else match names[n]? with
      | some name => name.toList
      | none => [Char.ofNat n]

/-- A line of units. `wide` is the width of eight octets in the widest column. -/
def line (c : Column) (wide width : Nat) (octets : Octets) : Octets :=
  let filled := octets ++ List.replicate ((c.size - octets.length % c.size) % c.size) '\x00'
  let unitWidth := wide * c.size / 8
  let unitAt (i : Nat) : Octets :=
    Octets.padLeft unitWidth ' ' (c.unit ((filled.drop (i * c.size)).take c.size))
  let shown := (List.range (filled.length / c.size)).flatMap unitAt
  if c.shown then
    let visible := octets.map fun o => if ' ' ≤ o && o ≤ '~' then o else '.'
    Octets.padRight (width / c.size * unitWidth) shown ++ "  >".toList ++ visible ++ ['<']
  else shown

end Column

/-- The lines of a dump. `last` is the line before, and `starred` says that lines equal to it have been
left out. -/
def lines (address : Nat → Octets) (columns : List Column) (all : Bool) (wide width : Nat) :
    Nat → Nat → Octets → Option Octets → Bool → List Octets
  | 0, _, _, _, _ => []
  | fuel + 1, offset, text, last, starred =>
    if text.isEmpty then [address offset]
    else
      let here := text.take width
      let next := text.drop width
      let more := lines address columns all wide width fuel (offset + here.length) next (some here)
      if !all && last = some here && here.length = width then
        if starred then more true else ['*'] :: more true
      else
        let blank := List.replicate (address 0).length ' '
        let texts := columns.map fun c => c.line wide width here
        let shown := texts.zipIdx.map fun (t, i) => (if i = 0 then address offset else blank) ++ t
        shown ++ more false

/-- Shows octets. -/
def run (p : Parsed) : Task Nat := do
  let found : List (Option (List Column)) := p.options.filterMap fun (letter, value) =>
    if letter = 't' then some (columns (value.length + 1) value)
    else (shortColumns.lookup letter).map fun c => some [c]
  let number (letter : Char) : Option Nat := (p.value? letter).bind scaledCount?
  if found.any Option.isNone then
    Task.complain ("invalid type string " ++ quoted ((p.value? 't').getD []))
    return 1
  let columns := match (found.filterMap id).flatten with
    | [] => [⟨.octal, 2, false⟩]
    | asked => asked
  let mut text : Octets := []
  let mut failures := 0
  let names := sources p.operands
  for name in names do
    match ← Task.contentOrComplaint name with
    | some content => text := text ++ content
    | none => failures := failures + 1
  if failures = names.length then return 1
  let offset := (number 'j').getD 0
  if text.length < offset then
    Task.complain "cannot skip past end of combined input"
    return 1
  let rest := text.drop offset
  let rest := match number 'N' with
    | some n => rest.take n
    | none => rest
  let largest := columns.foldl (fun n c => max n c.size) 1
  let asked := if p.has 'w' then (number 'w').getD 32 else 16
  let width := max largest (asked / largest * largest)
  let wide := columns.foldl (fun n c => max n (c.width * 8 / c.size)) 8
  let address (n : Nat) : Octets :=
    match (p.value? 'A').getD ['o'] with
    | 'n' :: _ => []
    | 'd' :: _ => digits 10 7 n
    | 'x' :: _ => digits 16 6 n
    | _ => digits 8 7 n
  let shown := lines address columns (p.has 'v') wide width (rest.length + 2) offset rest none false
  for l in shown do
    if !l.isEmpty then Task.printLine l
  return if 0 < failures then 1 else 0

end Dump

/-! ## Letters that can be sent -/

/-- An alphabet in which octets are written. -/
structure Alphabet where
  letters : Octets
  /-- The bits that a letter stands for, and the octets that a whole group of letters stands for. -/
  bits : Nat
  group : Nat

namespace Alphabet

/-- Letters and digits, and two signs. -/
def sixtyFour : Alphabet :=
  ⟨"ABCDEFGHIJKLMNOPQRSTUVWXYZabcdefghijklmnopqrstuvwxyz0123456789+/".toList, 6, 3⟩

/-- Capital letters and some digits. -/
def thirtyTwo : Alphabet := ⟨"ABCDEFGHIJKLMNOPQRSTUVWXYZ234567".toList, 5, 5⟩

/-- The number of letters of a whole group. -/
def lettersOfGroup (a : Alphabet) : Nat := a.group * 8 / a.bits

/-- Some numbers of a number of bits as one number. -/
def joined (bits : Nat) (values : List Nat) : Nat := values.foldl (fun n v => n * Nat.pow 2 bits + v) 0

/-- Writes octets. `fuel` bounds the groups. -/
def encode (a : Alphabet) : Nat → Octets → Octets
  | 0, _ => []
  | fuel + 1, text =>
    if text.isEmpty then []
    else
      let here := text.take a.group
      let filled := here.map Char.toNat ++ List.replicate (a.group - here.length) 0
      let n := joined 8 filled
      let count := (here.length * 8 + a.bits - 1) / a.bits
      let letter (i : Nat) : Char :=
        if count ≤ i then '='
        else a.letters.getD (n / Nat.pow 2 (a.bits * (a.lettersOfGroup - 1 - i)) % Nat.pow 2 a.bits) '='
      (List.range a.lettersOfGroup).map letter ++ encode a fuel (text.drop a.group)

/-- Reads what was written, and says whether all of it could be read. `fuel` bounds the groups. -/
def decode (a : Alphabet) : Nat → Octets → Octets × Bool
  | 0, _ => ([], true)
  | fuel + 1, text =>
    if text.isEmpty then ([], true)
    else
      let here := text.take a.lettersOfGroup
      let values := (here.takeWhile a.letters.contains).map fun c => a.letters.idxOf c
      let rest := here.drop values.length
      let octets := values.length * a.bits / 8
      let n := joined a.bits (values ++ List.replicate (a.lettersOfGroup - values.length) 0)
      let octet (i : Nat) : Char := Char.ofNat (n / Nat.pow 2 (8 * (a.group - 1 - i)) % 256)
      let found := (List.range octets).map octet
      let isWhole := here.length = a.lettersOfGroup && rest.all (· = '=') && 0 < octets
      if isWhole then
        let (more, good) := decode a fuel (text.drop a.lettersOfGroup)
        (found ++ more, good)
      else (found, false)

def options : OptionTable :=
  ⟨"diw:", [("decode", 'd', .none), ("ignore-garbage", 'i', .none), ("wrap", 'w', .required)], true⟩

/-- A text in lines of a width. -/
def wrapped (width : Nat) : Nat → Octets → Octets
  | 0, _ => []
  | fuel + 1, text =>
    if text.isEmpty then []
    else if width = 0 then text
    else text.take width ++ '\n' :: wrapped width fuel (text.drop width)

/-- Writes octets in the alphabet, or reads them. -/
def run (a : Alphabet) (p : Parsed) : Task Nat := do
  match ← Task.contentOrComplaint (p.operands.headD ['-']) with
  | none => return 1
  | some text =>
    if p.has 'd' then
      let text := text.filter fun c =>
        if p.has 'i' then a.letters.contains c || c = '=' else c ≠ '\n'
      let (found, good) := a.decode (text.length + 1) text
      Task.print found
      if !good then Task.complain "invalid input"
      return if good then 0 else 1
    else
      let width := ((p.value? 'w').bind (Number.natOfDigits? 10)).getD 76
      let text := a.encode (text.length + 1) text
      Task.print (wrapped width (text.length + 1) text)
      return 0

end Alphabet

end CallbackWeave.Utility

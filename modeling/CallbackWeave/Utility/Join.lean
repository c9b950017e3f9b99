import CallbackWeave.Utility.Lines

/-!
Joining the lines of two sorted files that have a field in common.
-/

namespace CallbackWeave.Utility

namespace Join

def options : OptionTable :=
  ⟨"a:e:i1:2:j:o:t:v:z",
    [("ignore-case", 'i', .none), ("header", 'h', .none), ("check-order", 'c', .none),
      ("nocheck-order", 'n', .none)], true⟩

/-- How lines are joined. -/
structure Manner where
  separator : Option Char
  left : Nat
  right : Nat
  foldsCase : Bool
  /-- The fields that are written, each with the number of its file and its own; the field zero is the
  common one. -/
  output : Option (List (Nat × Nat))
  filler : Octets
  /-- The files whose lines without a partner are written too. -/
  alone : List Nat
  /-- Whether joined lines are written. -/
  pairs : Bool

namespace Manner

/-- The fields of a line. -/
def fields (m : Manner) (line : Octets) : List Octets :=
  match m.separator with
  | some c => line.splitOn c
  | none =>
    let spaced := line.map fun c => if c = '\t' then ' ' else c
    (spaced.splitOn ' ').filter (!·.isEmpty)

/-- The common field of a line of one of the files. -/
def key (m : Manner) (file : Nat) (line : List Octets) : Octets :=
  let text := line.getD ((if file = 1 then m.left else m.right) - 1) []
  if m.foldsCase then text.map Char.toLower else text

/-- The line that is written for two lines, of which one may be missing. -/
def written (m : Manner) (a b : Option (List Octets)) : Octets :=
  let separator := m.separator.getD ' '
  let common := match a, b with
    | some a, _ => a.getD (m.left - 1) []
    | none, some b => b.getD (m.right - 1) []
    | none, none => []
  let field (file n : Nat) : Octets :=
    if file = 0 then common
    else
      let text := (((if file = 1 then a else b).getD [])[n - 1]?).getD []
      if text.isEmpty then m.filler else text
  let others (line : Option (List Octets)) (n : Nat) : List Octets :=
    (line.getD []).eraseIdx (n - 1)
  let parts := match m.output with
    | some chosen => chosen.map fun (file, n) => field file n
    | none => common :: others a m.left ++ others b m.right
  [separator].intercalate parts ++ ['\n']

end Manner

/-- Joins lines. Lines with the same key are joined with all of the other file that have it. `fuel`
bounds the steps. -/
def join (m : Manner) : Nat → List (List Octets) → List (List Octets) → Octets
  | 0, _, _ => []
  | fuel + 1, left, right =>
    let single (file : Nat) (line : Octets) : Octets := if m.alone.contains file then line else []
    match left, right with
    | [], [] => []
    | a :: rest, [] => single 1 (m.written (some a) none) ++ join m fuel rest []
    | [], b :: rest => single 2 (m.written none (some b)) ++ join m fuel [] rest
    | a :: others, b :: more =>
      let x := m.key 1 a
      let y := m.key 2 b
      if x = y then
        let same := left.takeWhile (m.key 1 · = x)
        let partners := right.takeWhile (m.key 2 · = x)
        let found := if m.pairs then
            same.flatMap fun a => partners.flatMap fun b => m.written (some a) (some b)
          else []
        found ++ join m fuel (left.drop same.length) (right.drop partners.length)
      else if Octets.precedes x y then
        single 1 (m.written (some a) none) ++ join m fuel others right
      else single 2 (m.written none (some b)) ++ join m fuel left more

/-- A field of the output. -/
def field? (text : Octets) : Option (Nat × Nat) :=
  if text = ['0'] then some (0, 0)
  else
    match Octets.splitAt '.' text with
    | (['1'], some n) => (Number.natOfDigits? 10 n).map (1, ·)
    | (['2'], some n) => (Number.natOfDigits? 10 n).map (2, ·)
    | _ => none

/-- Joins two files. -/
def run (p : Parsed) : Task Nat := do
  match p.operands with
  | [first, second] =>
    let some a ← Task.contentOrComplaint first | return 1
    let some b ← Task.contentOrComplaint second | return 1
    let number (letter : Char) : Nat :=
      ((p.value? letter <|> p.value? 'j').bind (Number.natOfDigits? 10)).getD 1
    let files (letter : Char) : List Nat := (p.values letter).filterMap (Number.natOfDigits? 10)
    let separator : Option Char := (p.value? 't').map fun t =>
      if t = "\\0".toList then '\x00' else t.headD '\n'
    let output := (p.values 'o').flatMap fun text =>
      (text.flatMap fun c => if c = ',' then [' '] else [c]).splitOn ' '
    let m : Manner :=
      { separator := separator, left := number '1', right := number '2', foldsCase := p.has 'i'
        output := if p.has 'o' then some (output.filterMap field?) else none
        filler := (p.value? 'e').getD [], alone := files 'a' ++ files 'v', pairs := !p.has 'v' }
    let lines (text : Octets) : List (List Octets) :=
      (Octets.lines text).map fun line => m.fields (Octets.chomp line)
    let left := lines a
    let right := lines b
    Task.print (join m (left.length + right.length + 1) left right)
    return 0
  | [] => misuse 1 "missing operand"
  | [only] => misuse 1 ("missing operand after " ++ quoted only)
  | _ :: _ :: extra :: _ => misuse 1 ("extra operand " ++ quoted extra)

end Join

end CallbackWeave.Utility

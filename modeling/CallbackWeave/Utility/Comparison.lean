import CallbackWeave.Utility.Lines

/-!
Programs that compare files, octet by octet or line by line.
-/

namespace CallbackWeave.Utility

/-! ## Octets -/

namespace Comparison

def options : OptionTable :=
  ⟨"bi:ln:s",
    [("print-bytes", 'b', .none), ("ignore-initial", 'i', .required), ("verbose", 'l', .none),
      ("bytes", 'n', .required), ("quiet", 's', .none), ("silent", 's', .none)], true⟩

/-- The first place at which two texts differ, with the number of its line; none if one of them ends
before. -/
def firstDifference : Nat → Nat → Octets → Octets → Option (Nat × Nat × Char × Char)
  | place, line, a :: rest, b :: others =>
    if a = b then firstDifference (place + 1) (if a = '\n' then line + 1 else line) rest others
    else some (place, line, a, b)
  | _, _, _, _ => none

/-- The octal digits of an octet. -/
def octal (c : Char) : Octets := Octets.padLeft 3 ' ' (Nat.toDigits 8 c.toNat)

/-- Compares two files. -/
def run (p : Parsed) : Task Nat := do
  match p.operands with
  | [] => misuse 2 "missing operand after 'cmp'"
  | first :: others =>
    let second := others.headD ['-']
    let some a ← Task.contentOrComplaint first | return 2
    let some b ← Task.contentOrComplaint second | return 2
    let skipped := ((p.value? 'i').bind scaledCount?).getD 0
    let cut (text : Octets) : Octets :=
      let text := text.drop skipped
      match (p.value? 'n').bind scaledCount? with
      | some n => text.take n
      | none => text
    let a := cut a
    let b := cut b
    let tellEnd : Task Unit := do
      if !p.has 's' && a.length ≠ b.length then
        let (name, text) := if a.length < b.length then (first, a) else (second, b)
        let lines := text.count '\n'
        let place := if text.isEmpty then " which is empty"
          else " after byte " ++ toString text.length
            ++ if p.has 'l' then ""
              else if text.getLast? = some '\n' then ", line " ++ toString lines
              else ", in line " ++ toString (lines + 1)
        Task.complain ("EOF on " ++ name.toText ++ place)
    if a = b then return 0
    else if p.has 's' then return 1
    else if p.has 'l' then
      let width := (Octets.ofNat (max a.length b.length)).length
      for ((x, y), i) in (a.zip b).zipIdx do
        if x ≠ y then
          Task.printLine (Octets.padLeft width ' ' (Octets.ofNat (i + 1)) ++ ' ' :: octal x
            ++ ' ' :: octal y)
      tellEnd
      return 1
    else
      match firstDifference 1 1 a b with
      | some (place, line, x, y) =>
        let front := first.toText ++ " " ++ second.toText ++ " differ: "
          ++ (if p.has 'b' then "byte " else "char ") ++ toString place
          ++ ", line " ++ toString line
        let shown (c : Char) : Octets := ' ' :: octal c ++ ' ' :: Concatenate.visible c
        Task.printLine (Octets.ofText front
          ++ if p.has 'b' then " is".toList ++ shown x ++ shown y else [])
        return 1
      | none => tellEnd; return 1

end Comparison

/-! ## Lines -/

namespace Difference

/-- A stretch of lines that differ: where it begins in each file, and how many lines of each belong to
it. -/
structure Change where
  left : Nat
  right : Nat
  removed : Nat
  added : Nat
deriving DecidableEq, Repr

def options : OptionTable :=
  ⟨"abBdehilnNpqrsStTuU:wcC:L:yE",
    [("brief", 'q', .none), ("report-identical-files", 's', .none), ("ignore-case", 'i', .none),
      ("ignore-space-change", 'b', .none), ("ignore-all-space", 'w', .none),
      ("ignore-blank-lines", 'B', .none), ("unified", 'U', .optional), ("context", 'C', .optional),
      ("label", 'L', .required), ("text", 'a', .none), ("recursive", 'r', .none),
      ("new-file", 'N', .none), ("normal", 'n', .none), ("minimal", 'd', .none)], true⟩

/-- White space within a line. -/
def isBlank (c : Char) : Bool := c = ' ' || '\t' ≤ c && c ≤ '\r'

/-- A text in which stretches of white space have become spaces, with none at the end. -/
def squeezed : Octets → Octets
  | [] => []
  | c :: rest =>
    if isBlank c then
      match squeezed rest with
      | [] => []
      | ' ' :: more => ' ' :: more
      | more => ' ' :: more
    else c :: squeezed rest

/-- What is compared of a line. -/
def key (p : Parsed) (line : Octets) : Octets :=
  let ended := line.getLast? = some '\n'
  let body := Octets.chomp line
  let body := if p.has 'i' then body.map Char.toLower else body
  if p.has 'w' then body.filter (!isBlank ·)
  else if p.has 'b' then squeezed body
  else if ended then body ++ ['\n'] else body

/-- The lengths of the longest common parts of the ends of two lists: row `i` is about the first list
without its first `i` lines. -/
def table (a b : Array Octets) : Array (Array Nat) :=
  let empty := Array.replicate (b.size + 1) 0
  let rows := a.toList.foldr (fun line (rows : List (Array Nat)) =>
      let below := rows.headD empty
      let (row, _) := b.toList.zipIdx.foldr (fun (other, j) (row, right) =>
          let n := if line = other then below.getD (j + 1) 0 + 1 else max (below.getD j 0) right
          (n :: row, n)) ([0], 0)
      row.toArray :: rows) [empty]
  rows.toArray

/-- Which lines of two lists do not belong to their longest common part. `fuel` bounds the steps. -/
def walk (a b : Array Octets) (t : Array (Array Nat)) : Nat → Nat → Nat → List Nat × List Nat
  | 0, _, _ => ([], [])
  | fuel + 1, i, j =>
    let length (i j : Nat) : Nat := (t.getD i #[]).getD j 0
    if i < a.size && j < b.size && a.getD i [] = b.getD j [] then walk a b t fuel (i + 1) (j + 1)
    else if i < a.size && (j = b.size || length i (j + 1) ≤ length (i + 1) j) then
      let (left, right) := walk a b t fuel (i + 1) j
      (i :: left, right)
    else if j < b.size then
      let (left, right) := walk a b t fuel i (j + 1)
      (left, j :: right)
    else ([], [])

/-- Which lines of a file are changed. -/
def changed (size : Nat) (lines : List Nat) : Array Bool :=
  lines.foldl (fun flags i => flags.setIfInBounds i true) (Array.replicate size false)

/-- Moves the stretches of changed lines of a file down as long as the line behind them is equal to their
first one. `fuel` bounds the steps. -/
def slide (keys : Array Octets) : Nat → Nat → Array Bool → Array Bool
  | 0, _, flags => flags
  | fuel + 1, start, flags =>
    if keys.size ≤ start then flags
    else if !flags.getD start false then slide keys fuel (start + 1) flags
    else
      let length := ((List.range (keys.size - start)).takeWhile fun k =>
        flags.getD (start + k) false).length
      let next := start + length
      if next < keys.size && keys.getD start [] = keys.getD next [] then
        slide keys fuel (start + 1)
          ((flags.setIfInBounds start false).setIfInBounds next true)
      else slide keys fuel next flags

/-- The stretches in which two files differ. `fuel` bounds the steps. -/
def changes (left right : Array Bool) : Nat → Nat → Nat → List Change
  | 0, _, _ => []
  | fuel + 1, i, j =>
    let run (flags : Array Bool) (start : Nat) : Nat :=
      ((List.range (flags.size - start)).takeWhile fun k => flags.getD (start + k) false).length
    let removed := run left i
    let added := run right j
    if removed = 0 && added = 0 then
      if left.size ≤ i || right.size ≤ j then [] else changes left right fuel (i + 1) (j + 1)
    else ⟨i, j, removed, added⟩ :: changes left right fuel (i + removed) (j + added)

/-- The stretches in which two lists of lines differ. -/
def between (p : Parsed) (a b : List Octets) : List Change :=
  let keys (lines : List Octets) : Array Octets := (lines.map (key p)).toArray
  let x := keys a
  let y := keys b
  let fuel := x.size + y.size + 2
  let (left, right) := walk x y (table x y) fuel 0 0
  let left := slide x (2 * fuel) 0 (changed x.size left)
  let right := slide y (2 * fuel) 0 (changed y.size right)
  let found := changes left right (2 * fuel) 0 0
  if p.has 'B' then
    found.filter fun c =>
      let lines := (a.drop c.left).take c.removed ++ (b.drop c.right).take c.added
      !lines.all fun line => (Octets.chomp line).isEmpty
  else found

/-- A line with its mark. -/
def marked (mark : String) (line : Octets) : Octets :=
  if line.getLast? = some '\n' then mark.toList ++ line
  else mark.toList ++ line ++ "\n\\ No newline at end of file\n".toList

/-- The numbers of some lines. -/
def range (start count : Nat) : Octets :=
  if count = 0 then Octets.ofNat start
  else if count = 1 then Octets.ofNat (start + 1)
  else Octets.ofNat (start + 1) ++ ',' :: Octets.ofNat (start + count)

/-- A stretch in which two files differ, on its own. -/
def plain (a b : List Octets) (c : Change) : Octets :=
  let kind := if c.added = 0 then 'd' else if c.removed = 0 then 'a' else 'c'
  let left := ((a.drop c.left).take c.removed).flatMap (marked "< ")
  let right := ((b.drop c.right).take c.added).flatMap (marked "> ")
  range c.left c.removed ++ kind :: range c.right c.added ++ '\n' :: left
    ++ (if kind = 'c' then "---\n".toList else []) ++ right

/-- Stretches that stand near each other, in groups. -/
def groups (context : Nat) : List Change → List (List Change)
  | [] => []
  | c :: rest =>
    match groups context rest with
    | [] => [[c]]
    | group :: more =>
      match group with
      | next :: _ =>
        if next.left ≤ c.left + c.removed + 2 * context then (c :: group) :: more
        else [c] :: group :: more
      | [] => [c] :: more

/-- The numbers of some lines in a group. -/
def span (start count : Nat) : Octets :=
  if count = 1 then Octets.ofNat (start + 1)
  else if count = 0 then Octets.ofNat start ++ ",0".toList
  else Octets.ofNat (start + 1) ++ ',' :: Octets.ofNat count

/-- A group of stretches with the lines around them. -/
def unified (context : Nat) (a b : List Octets) (group : List Change) : Octets :=
  match group.head?, group.getLast? with
  | some first, some last =>
    let start := first.left - context
    let front := first.left - start
    let stop := min a.length (last.left + last.removed + context)
    let rightStart := first.right - front
    let rightStop := last.right + last.added + (stop - last.left - last.removed)
    let title := "@@ -".toList ++ span start (stop - start) ++ " +".toList
      ++ span rightStart (rightStop - rightStart) ++ " @@\n".toList
    let (body, place) := group.foldl (fun (text, place) c =>
        let before := ((a.drop place).take (c.left - place)).flatMap (marked " ")
        let left := ((a.drop c.left).take c.removed).flatMap (marked "-")
        let right := ((b.drop c.right).take c.added).flatMap (marked "+")
        (text ++ before ++ left ++ right, c.left + c.removed)) (([] : Octets), start)
    title ++ body ++ ((a.drop place).take (stop - place)).flatMap (marked " ")
  | _, _ => []

/-- Compares two files line by line. -/
def run (p : Parsed) : Task Nat := do
  match p.operands with
  | [first, second] =>
    let files ← Task.files
    let base (name : Octets) : Octets := (name.reverse.takeWhile (· ≠ '/')).reverse
    let inside (name other : Octets) : Octets :=
      if name ≠ ['-'] && files.isDirectory name.toPath && !files.isDirectory other.toPath then
        name ++ '/' :: base other
      else name
    let left := inside first second
    let right := inside second first
    let x ← Task.contentOrComplaint left
    let y ← Task.contentOrComplaint right
    match x, y with
    | some x, some y =>
      let a := Octets.lines x
      let b := Octets.lines y
      let found := if x = y then [] else between p a b
      if found.isEmpty then
        if p.has 's' then
          Task.printLine ("Files ".toList ++ left ++ " and ".toList ++ right ++ " are identical".toList)
        return 0
      else if p.has 'q' then
        Task.printLine ("Files ".toList ++ left ++ " and ".toList ++ right ++ " differ".toList)
        return 1
      else if p.has 'u' || p.has 'U' then
        let context := ((p.value? 'U').bind (Number.natOfDigits? 10)).getD 3
        let time := "\t1970-01-01 00:00:00.000000000 +0000".toList
        let labels := p.values 'L'
        let title (mark : String) (name : Octets) (label : Option Octets) : Octets :=
          mark.toList ++ label.getD (name ++ time) ++ ['\n']
        Task.print (title "--- " left labels.head? ++ title "+++ " right (labels.drop 1).head?
          ++ (groups context found).flatMap (unified context a b))
        return 1
      else
        Task.print (found.flatMap (plain a b))
        return 1
    | _, _ => return 2
  | [] => misuse 2 "missing operand after 'diff'"
  | [only] => misuse 2 ("missing operand after " ++ quoted only)
  | _ :: _ :: extra :: _ => misuse 2 ("extra operand " ++ quoted extra)

end Difference

end CallbackWeave.Utility

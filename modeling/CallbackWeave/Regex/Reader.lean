import CallbackWeave.Number.Literal
import CallbackWeave.Regex.Basic

/-!
Regular expressions as they are written. There are two ways of writing them: in the basic one brackets,
braces and signs of repetition need a backslash to be more than themselves, and in the extended one they
need it to be no more than that.
-/

namespace CallbackWeave.Regex

/-- Why an expression cannot be read. -/
inductive Fault where
  | openGroup
  | openBrackets
  | openBraces
  | openEscape
  | strayClose
  | nothingRepeated
  | badCount
  | tooBig
  | noSuchGroup
  | noSuchClass
  | badRange
  | nothing
deriving DecidableEq, Repr

/-- What is told of an expression that cannot be read. -/
def Fault.message : Fault → String
  | openGroup => "Unmatched ( or \\("
  | openBrackets => "Unmatched [, [^, [:, [., or [="
  | openBraces => "Unmatched \\\x7b"
  | openEscape => "Trailing backslash"
  | strayClose => "Unmatched ) or \\)"
  | nothingRepeated => "Invalid preceding regular expression"
  | badCount => "Invalid content of \\\x7b\\\x7d"
  | tooBig => "Regular expression too big"
  | noSuchGroup => "Invalid back reference"
  | noSuchClass => "Invalid character class name"
  | badRange => "Invalid range end"
  | nothing => "Invalid regular expression"

/-- How expressions are written. -/
structure Dialect where
  extended : Bool
  /-- Whether signs that make no sense stand for themselves. -/
  lenient : Bool
  /-- Whether a backslash in brackets escapes the next character. -/
  escapesInBrackets : Bool
  /-- Whether letters behind backslashes stand for classes and places, and digits for groups. -/
  hasClasses : Bool
  /-- Whether a star may follow another sign of repetition. -/
  nests : Bool
deriving DecidableEq, Repr

/-- What is left of an expression, and the groups so far: their number, and those that are complete. -/
structure ReaderState where
  rest : Octets
  groups : Nat
  complete : List Nat

/-- Takes something off the front of an expression. -/
abbrev Reader := StateT ReaderState (Except Fault)

/-- Goes over some characters. -/
def skip (n : Nat) : Reader Unit := modify fun s => { s with rest := s.rest.drop n }

/-- The characters of escapes of a single letter. -/
def letterEscapes : List (Char × Char) :=
  [('a', '\x07'), ('b', '\x08'), ('f', '\x0c'), ('n', '\n'), ('r', '\r'), ('t', '\t'), ('v', '\x0b')]

/-! ## Brackets -/

/-- Takes one end of a range in brackets. -/
def readEnd (d : Dialect) : Octets → Except Fault (Char × Octets)
  | [] => .error .openBrackets
  | '[' :: '.' :: c :: '.' :: ']' :: rest => .ok (c, rest)
  | '[' :: '=' :: c :: '=' :: ']' :: rest => .ok (c, rest)
  | '\\' :: c :: rest =>
    if d.escapesInBrackets then .ok ((letterEscapes.lookup c).getD c, rest) else .ok ('\\', c :: rest)
  | c :: rest => .ok (c, rest)

/-- Reads what brackets hold, up to the bracket that closes them. `fuel` bounds the members. -/
def readMembers (d : Dialect) : Nat → Bool → Octets → Except Fault (List Text.Member × Octets)
  | 0, _, _ => .error .openBrackets
  | _, _, [] => .error .openBrackets
  | fuel + 1, isFirst, text => do
    let goOn (m : Text.Member) (rest : Octets) : Except Fault (List Text.Member × Octets) := do
      let (more, rest) ← readMembers d fuel false rest
      return (m :: more, rest)
    match text with
    | ']' :: rest => if !isFirst then return ([], rest)
    | '[' :: ':' :: inside =>
      let name := inside.takeWhile (· ≠ ':')
      match inside.drop name.length with
      | ':' :: ']' :: rest =>
        match Text.CharacterClass.ofName? name with
        | some kind => return ← goOn (.named kind) rest
        | none => throw .noSuchClass
      | _ => pure ()
    | _ => pure ()
    let (first, rest) ← readEnd d text
    match rest with
    | '-' :: c :: more =>
      if c = ']' then goOn (.range first first) rest
      else
        let (last, rest) ← readEnd d (c :: more)
        if last < first then throw .badRange else goOn (.range first last) rest
    | rest => goOn (.range first first) rest

/-- Takes brackets whose first one has been taken. -/
def readBrackets (d : Dialect) : Reader Regex := do
  let s ← get
  let (negated, inside) := match s.rest with
    | '^' :: inside => (true, inside)
    | inside => (false, inside)
  let (members, rest) ← readMembers d (inside.length + 1) true inside
  set { s with rest := rest }
  return .choice negated members

/-! ## Pieces -/

/-- The characters of words. -/
def wordMembers : List Text.Member := [.named .alnum, .range '_' '_']

/-- What a letter behind a backslash stands for. -/
def escaped? (d : Dialect) (c : Char) : Option Regex :=
  if !d.hasClasses then (letterEscapes.lookup c).map .one
  else
    match c with
    | 'w' => some (.choice false wordMembers)
    | 'W' => some (.choice true wordMembers)
    | 's' => some (.choice false [.named .space])
    | 'S' => some (.choice true [.named .space])
    | 'b' => some (.place .wordEdge)
    | 'B' => some (.place .noWordEdge)
    | '<' => some (.place .wordStart)
    | '>' => some (.place .wordEnd)
    | '\x60' => some (.place .textStart)
    | '\'' => some (.place .textEnd)
    | _ => none

/-- Whether the branch ends here. -/
def endsBranch (d : Dialect) (depth : Nat) : Octets → Bool
  | [] => true
  | '|' :: _ => d.extended
  | ')' :: _ => d.extended && (depth > 0 || !d.lenient)
  | '\\' :: '|' :: _ => !d.extended
  | '\\' :: ')' :: _ => !d.extended
  | _ => false

/-- Reads the counts in braces, whose first one has been taken: the least and the most, and what
follows. -/
def readCounts (d : Dialect) (text : Octets) : Except Fault (Nat × Option Nat × Octets) := do
  let number (text : Octets) : Option Nat × Octets :=
    let digits := text.takeWhile Char.isDigit
    (Number.natOfDigits? 10 digits, text.drop digits.length)
  let (least, rest) := number text
  let (most, rest) := match rest with
    | ',' :: rest => number rest
    | rest => (least, rest)
  let hasComma := (text.dropWhile Char.isDigit).head? = some ','
  let close : Octets := if d.extended then ['}'] else "\\\x7d".toList
  if close.isPrefixOf rest && (least.isSome || hasComma) then
    if most.any (· < least.getD 0) then throw .badCount
    else if most.any (· > 32767) || least.any (· > 32767) then throw .tooBig
    else return (least.getD 0, most, rest.drop close.length)
  else if rest.isEmpty then throw .openBraces
  else throw .badCount

/-- Takes the signs of repetition behind a piece. `fuel` bounds their number. -/
def readRepeats (d : Dialect) : Nat → Regex → Reader Regex
  | 0, r => pure r
  | fuel + 1, r => do
    let isRepeated := match r with
      | .times _ _ _ => true
      | _ => false
    let repeated (n least : Nat) (most : Option Nat) : Reader Regex := do
      skip n
      readRepeats d fuel (.times least most r)
    let counted (n : Nat) : Reader Regex := do
      let s ← get
      match readCounts d (s.rest.drop n) with
      | .ok (least, most, rest) =>
        set { s with rest := rest }
        readRepeats d fuel (.times least most r)
      | .error fault => if d.lenient && d.extended && fault ≠ .tooBig then return r else throw fault
    match (← get).rest, d.extended with
    | '*' :: _, _ =>
      if isRepeated && !d.nests then throw .nothingRepeated
      repeated 1 0 none
    | '+' :: _, true => repeated 1 1 none
    | '?' :: _, true => repeated 1 0 (some 1)
    | '{' :: _, true => counted 1
    | '\\' :: '+' :: _, false => repeated 2 1 none
    | '\\' :: '?' :: _, false => repeated 2 0 (some 1)
    | '\\' :: '{' :: _, false =>
      if isRepeated && !d.nests then throw .nothingRepeated
      counted 2
    | _, _ => return r

/-- Takes a group whose first bracket has been taken. -/
def readGroup (d : Dialect) (alternatives : Reader Regex) : Reader Regex := do
  let number := (← get).groups + 1
  modify fun s => { s with groups := number }
  let body ← alternatives
  match (← get).rest, d.extended with
  | ')' :: _, true => skip 1
  | '\\' :: ')' :: _, false => skip 2
  | _, _ => throw .openGroup
  modify fun s => { s with complete := number :: s.complete }
  return .group number body

/-- Takes a piece without the signs of repetition behind it. `isFirst` says that the branch begins with
it, and `alternatives` reads what stands in a group. -/
def readPiece (d : Dialect) (alternatives : Reader Regex) (depth : Nat) (isFirst : Bool) :
    Reader Regex := do
  match (← get).rest with
  | [] => return .empty
  | '\\' :: [] => throw .openEscape
  | '\\' :: c :: _ =>
    skip 2
    match escaped? d c with
    | some r => return r
    | none =>
      if c = '(' && !d.extended then readGroup d alternatives
      else if c = '{' && !d.extended then
        if isFirst then throw .nothingRepeated else return .one '{'
      else if c.isDigit && c ≠ '0' && d.hasClasses then
        let number := c.toNat - 48
        if (← get).complete.contains number then return .again number else throw .noSuchGroup
      else return .one c
  | '[' :: _ => skip 1; readBrackets d
  | '.' :: _ => skip 1; return .any
  | '^' :: _ =>
    skip 1
    return if d.extended || isFirst then .place .lineStart else .one '^'
  | '$' :: rest =>
    skip 1
    return if d.extended || endsBranch d depth rest then .place .lineEnd else .one '$'
  | '(' :: _ =>
    skip 1
    if d.extended then readGroup d alternatives else return .one '('
  | c :: _ =>
    if "*+?\x7b".toList.contains c && d.extended && isFirst then
      if c = '{' && d.lenient then skip 1; return .one '{'
      else if d.lenient then skip 1; return .empty
      else throw .nothingRepeated
    else
      skip 1
      return .one c

/-- Takes a branch. `fuel` bounds its pieces. -/
def readBranch (d : Dialect) (alternatives : Reader Regex) (depth : Nat) : Nat → Bool → Reader Regex
  | 0, _ => pure .empty
  | fuel + 1, isFirst => do
    if endsBranch d depth (← get).rest then return .empty
    let piece ← readPiece d alternatives depth isFirst
    let isAnchor := match piece with
      | .place .lineStart => true
      | _ => false
    let literalStar := isFirst && isAnchor && !d.extended
    if literalStar && (← get).rest.head? = some '*' then
      skip 1
      let star ← readRepeats d fuel (.one '*')
      return .both piece (.both star (← readBranch d alternatives depth fuel false))
    let piece ← if d.extended && isAnchor then pure piece else readRepeats d fuel piece
    if endsBranch d depth (← get).rest then return piece
    else return .both piece (← readBranch d alternatives depth fuel (d.extended && isAnchor && isFirst))

/-- Takes alternatives. `fuel` bounds how deep groups stand in each other. -/
def readAlternatives (d : Dialect) : Nat → Nat → Reader Regex
  | 0, _ => throw .tooBig
  | fuel + 1, depth => do
    let inner := readAlternatives d fuel (depth + 1)
    let rec more (count : Nat) (first : Regex) : Reader Regex := do
      match count with
      | 0 => return first
      | count + 1 =>
        match (← get).rest, d.extended with
        | '|' :: _, true =>
          skip 1
          more count (.either first (← readBranch d inner depth (← get).rest.length true))
        | '\\' :: '|' :: _, false =>
          skip 2
          more count (.either first (← readBranch d inner depth (← get).rest.length true))
        | _, _ => return first
    let length := (← get).rest.length
    more length (← readBranch d inner depth (length + 1) true)

/-- Reads an expression. -/
def read (d : Dialect) (text : Octets) : Except Fault Regex := do
  let (r, s) ← (readAlternatives d (text.length + 1) 0).run ⟨text, 0, []⟩
  if s.rest.isEmpty then return r else throw .strayClose

/-- The basic way of writing expressions, and the extended one. -/
def Dialect.basic : Dialect := ⟨false, false, false, true, true⟩
def Dialect.full : Dialect := ⟨true, false, false, true, true⟩

end CallbackWeave.Regex

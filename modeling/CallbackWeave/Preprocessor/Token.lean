import CallbackWeave.Host.Octets

/-!
The tokens of sources. A source is first seen as characters with their places, without the backslashes
that join lines; `Token.ofText` divides it into tokens. Comments are white space.
-/

namespace CallbackWeave.Preprocessor

/-- What a token is. -/
inductive Kind where
  | name
  | number
  /-- A text in double quotes. -/
  | text
  /-- Characters in single quotes. -/
  | character
  /-- One of these with letters before the quote. -/
  | marked
  /-- The name of a header in angle brackets. -/
  | header
  | sign
  | other
  /-- Nothing, but a place where tokens meet that were not written side by side. It may come with
  whether white space stands before what it stems from. -/
  | padding (source : Option Bool)
  | finish
deriving DecidableEq, Repr, Inhabited

/-- A place in a source. -/
structure Place where
  line : Nat
  column : Nat
deriving DecidableEq, Repr, Inhabited

/-- A token. -/
structure Token where
  kind : Kind
  text : Octets
  /-- Whether white space stands before it. -/
  spaced : Bool
  /-- Whether it is the first one of its line. -/
  first : Bool
  /-- Whether it is a name that is not replaced any more. -/
  fixed : Bool
  /-- Whether it is joined to the token behind it. -/
  joins : Bool
  place : Place
deriving Repr, Inhabited

/-- A character of a source at its place. -/
structure Spot where
  char : Char
  place : Place
deriving Repr, Inhabited

namespace Spot

/-- White space within a line. -/
def isBlank (c : Char) : Bool := c = ' ' || c = '\t' || c = '\x0b' || c = '\x0c' || c = '\r'

/-- The characters of a source, where the next `skip` ones join lines and are left out. -/
def read : Nat → Place → Octets → List Spot
  | _, _, [] => []
  | skip, place, c :: rest =>
    let next : Place := if c = '\n' then ⟨place.line + 1, 1⟩ else ⟨place.line, place.column + 1⟩
    match skip with
    | skip + 1 => read skip next rest
    | 0 =>
      let blanks := (rest.takeWhile isBlank).length
      if c = '\\' && (rest.drop blanks).head? = some '\n' then read (blanks + 1) next rest
      else if c = '\r' && rest.head? = some '\n' then read 0 next rest
      else ⟨c, place⟩ :: read 0 next rest

/-- The characters of a source. -/
def ofText (text : Octets) : List Spot := read 0 ⟨1, 1⟩ text

/-- The text of some characters. -/
def text (spots : List Spot) : Octets := spots.map char

end Spot

namespace Token

/-- A token of a kind. -/
def ofKind (kind : Kind) (text : Octets) : Token := ⟨kind, text, false, false, false, false, ⟨0, 0⟩⟩

/-- What stands between tokens that were not written side by side. -/
def padding (source : Option Bool) : Token := ofKind (.padding source) []

/-- The end of what can be read. -/
def finish : Token := ofKind .finish []

/-- Whether a token is a sign. -/
def isSign (t : Token) (sign : String) : Bool := t.kind = .sign && t.text = sign.toList

/-- Whether a token begins a directive at the front of a line. -/
def isHash (t : Token) : Bool := t.isSign "#" || t.isSign "%:"

/-- Whether a token joins its neighbours. -/
def isJoin (t : Token) : Bool := t.isSign "##" || t.isSign "%:%:"

/-- Whether a token is padding. -/
def isPadding (t : Token) : Bool :=
  match t.kind with
  | .padding _ => true
  | _ => false

/-- Whether a token has quotes around it. -/
def isQuoted (t : Token) : Bool := t.kind = .text || t.kind = .character || t.kind = .marked

/-- The signs, longer ones first. -/
def signs : List String :=
  ["%:%:", "...", "<<=", ">>=", "->", "++", "--", "<<", ">>", "<=", ">=", "==", "!=", "&&", "||", "+=",
    "-=", "*=", "/=", "%=", "&=", "|=", "^=", "##", "::", "<:", ":>", "<%", "%>", "%:", "(", ")", "[",
    "]", "\x7b", "\x7d", ";", ",", "+", "-", "*", "/", "%", "&", "|", "^", "~", "!", "=", "<", ">", "?",
    ":", ".", "#"]

/-- A character that names may begin with, written by a single octet. -/
def startsName (c : Char) : Bool := c.isAlpha || c = '_' || c = '$'

/-- A character of names, written by a single octet. -/
def isNameChar (c : Char) : Bool := startsName c || c.isDigit

/-- The numbers of further characters of names, as ranges. -/
def nameRanges : List (Nat × Nat) :=
  [(0xA8, 0xA8), (0xAA, 0xAA), (0xAD, 0xAD), (0xAF, 0xAF), (0xB2, 0xB5), (0xB7, 0xBA), (0xBC, 0xBE),
    (0xC0, 0xD6), (0xD8, 0xF6), (0xF8, 0x167F), (0x1681, 0x180D), (0x180F, 0x1FFF), (0x200B, 0x200D),
    (0x202A, 0x202E), (0x203F, 0x2040), (0x2054, 0x2054), (0x2060, 0x218F), (0x2460, 0x24FF),
    (0x2776, 0x2793), (0x2C00, 0x2DFF), (0x2E80, 0x2FFF), (0x3004, 0x3007), (0x3021, 0x302F),
    (0x3031, 0xD7FF), (0xF900, 0xFD3D), (0xFD40, 0xFDCF), (0xFDF0, 0xFE44), (0xFE47, 0xFFFD)]

/-- The numbers of those characters that names do not begin with, as ranges. -/
def markRanges : List (Nat × Nat) :=
  [(0x300, 0x36F), (0x1DC0, 0x1DFF), (0x20D0, 0x20FF), (0xFE20, 0xFE2F)]

/-- Whether a number is in one of some ranges. -/
def isIn (ranges : List (Nat × Nat)) (n : Nat) : Bool :=
  ranges.any fun (low, high) => low ≤ n && n ≤ high

/-- The character at the front of a text that several octets write, and the number of these. -/
def wide? (text : Octets) : Option (Nat × Nat) := do
  let c ← text.head?
  let length := if c.toNat < 0xC2 then 0 else if c.toNat < 0xE0 then 2 else if c.toNat < 0xF0 then 3
    else 4
  let octets := text.take length
  let decoded := (Octets.toText octets).toList
  match decoded with
  | [d] => if octets.length = length && 0 < length && d ≠ '\uFFFD' then some (d.toNat, length) else none
  | _ => none

/-- The length of the name at the front of a text. `skip` is the number of octets that belong to a
character before, and `first` says that no character of the name has been passed. -/
def nameLength : Nat → Bool → Octets → Nat
  | _, _, [] => 0
  | skip + 1, first, _ :: rest => nameLength skip first rest + 1
  | 0, first, c :: rest =>
    if startsName c || !first && c.isDigit then nameLength 0 false rest + 1
    else
      match wide? (c :: rest) with
      | some (n, length) =>
        let isPart := isIn nameRanges n || 0x10000 ≤ n && n % 0x10000 ≤ 0xFFFD
        if isPart && !(first && isIn markRanges n) then nameLength (length - 1) false rest + 1 else 0
      | none => 0

/-- A name in which the characters that several octets write stand by their numbers. -/
def plainName (name : Octets) : Octets :=
  if name.all (·.toNat < 128) then name
  else
    (Octets.toText name).toList.flatMap fun c =>
      if c.toNat < 128 then [c]
      else "\\U".toList ++ Octets.padLeft 8 '0' (Nat.toDigits 16 c.toNat)

/-- The length of the number at the front of a text that begins like one. -/
def numberLength : Octets → Nat
  | [] => 0
  | [c] => if isNameChar c || c = '.' then 1 else 0
  | c :: s :: rest =>
    if "eEpP".toList.contains c && (s = '+' || s = '-') then numberLength rest + 2
    else if isNameChar c || c = '.' then numberLength (s :: rest) + 1
    else 0

/-- The length of a text up to the quote that ends it, with that quote; none if the line ends first. -/
def quotedLength? (quote : Char) : Octets → Option Nat
  | [] => none
  | '\\' :: c :: rest => if c = '\n' then none else (quotedLength? quote rest).map (· + 2)
  | c :: rest =>
    if c = quote then some 1 else if c = '\n' then none else (quotedLength? quote rest).map (· + 1)

/-- The letters that may stand before a quote. -/
def marks : List String := ["L", "u8", "u", "U"]

/-- The kind and the length of the token at the front of a text that is not empty. `header` says that
a name in angle brackets may stand here. -/
def scan (header : Bool) (text : Octets) : Kind × Nat :=
  let line := (text.takeWhile (· ≠ '\n')).length
  let bracketed := text.takeWhile fun c => c ≠ '>' && c ≠ '\n'
  let c := text.headD ' '
  let quoted (kind : Kind) (front : Nat) : Kind × Nat :=
    match quotedLength? ((text.drop front).headD ' ') (text.drop (front + 1)) with
    | some length => (kind, front + 1 + length)
    | none => (.other, line)
  let mark := marks.find? fun m =>
    m.toList.isPrefixOf text && ((text.drop m.length).head?.any fun q => q = '"' || q = '\'')
  if header && c = '<' && (text.drop bracketed.length).head? = some '>' then
    (.header, bracketed.length + 1)
  else if header && c = '"' then
    let name := (text.drop 1).takeWhile fun q => q ≠ '"' && q ≠ '\n'
    if (text.drop (name.length + 1)).head? = some '"' then (.text, name.length + 2) else (.other, line)
  else if c = '"' then quoted .text 0
  else if c = '\'' then quoted .character 0
  else
    match mark with
    | some m => quoted .marked m.length
    | none =>
      let name := nameLength 0 true text
      if 0 < name then (.name, name)
      else if c.isDigit || c = '.' && (text.drop 1).head?.any Char.isDigit then
        (.number, 1 + numberLength (text.drop 1))
      else
        match signs.find? (·.toList.isPrefixOf text) with
        | some sign => (.sign, sign.length)
        | none => (.other, 1)

/-- The number of characters of a comment behind the signs that begin it. -/
def commentLength : Octets → Nat
  | [] => 0
  | '*' :: '/' :: _ => 2
  | _ :: rest => commentLength rest + 1

/-- The characters to which a token is not longer than. A line is enough, but for comments. -/
def window (spots : List Spot) : Octets := Spot.text (spots.takeWhile (·.char ≠ '\n')) ++ ['\n']

/-- The directives that name headers. -/
def including : List String := ["include", "include_next", "import"]

/-- How far a line is one that names a header. -/
inductive Progress where
  | start
  | hash
  | including
  | other
deriving DecidableEq, Repr

/-- The next stage of a line. -/
def Progress.after (p : Progress) (t : Token) : Progress :=
  match p with
  | start => if t.isHash then hash else other
  | hash => if Token.including.contains (String.ofList t.text) then including else other
  | _ => other

/-- Divides characters into tokens. `spaced` says that white space stands before, and `fuel` bounds the
steps. -/
def read : Nat → Progress → Bool → Bool → List Spot → List Token
  | 0, _, _, _, _ => []
  | _, _, _, _, [] => []
  | fuel + 1, progress, first, spaced, s :: rest =>
    if s.char = '\n' then read fuel .start true false rest
    else if Spot.isBlank s.char then read fuel progress first true rest
    else if s.char = '/' && (rest.head?.any (·.char = '/')) then
      read fuel progress first true (rest.dropWhile (·.char ≠ '\n'))
    else if s.char = '/' && (rest.head?.any (·.char = '*')) then
      read fuel progress first true (rest.drop (1 + commentLength (Spot.text (rest.drop 1))))
    else
      let (kind, length) := scan (progress = .including) (window (s :: rest))
      let t : Token :=
        { kind := kind, text := Spot.text ((s :: rest).take length), spaced := spaced, first := first
          fixed := false, joins := false, place := s.place }
      t :: read fuel (progress.after t) false false ((s :: rest).drop length)

/-- The tokens of a source. -/
def ofText (text : Octets) : List Token :=
  let spots := Spot.ofText text
  read (spots.length + 1) .start true false spots

/-- The tokens of a text that is no source of its own, such as two tokens that are joined. -/
def ofPiece (text : Octets) : List Token := (ofText text).map fun t => { t with first := false }

/-- Whether two tokens that stand side by side would be read as others. -/
def wouldMerge (a b : Token) : Bool :=
  let c := if b.kind = .sign then b.text.headD ' ' else ' '
  let isOne (chars : String) : Bool := chars.toList.contains c
  match a.kind with
  | .name =>
    b.kind = .name || b.kind = .text || b.kind = .character
      || b.kind = .number && b.text.all isNameChar
  | .number => b.kind = .number || b.kind = .name || b.kind = .character || isOne ".+-"
  | .other => a.text.head? = some '\\' && b.kind = .name
  | .sign =>
    c = '=' && ["=", "!", ">", "<", "+", "-", "*", "/", "%", "&", "|", "^", ">>", "<<"].contains
        (String.ofList a.text)
      || match String.ofList a.text with
        | ">" => isOne ">?"
        | "<" => isOne "<?%:"
        | "+" => c = '+'
        | "-" => isOne "->"
        | "/" => isOne "/*"
        | "%" => isOne ":%>"
        | "&" => c = '&'
        | "|" => c = '|'
        | ":" => isOne ":>"
        | "->" => c = '*'
        | "." => isOne ".%" || b.kind = .number
        | "#" | "%:" => isOne "#%"
        | _ => false
  | _ => false

/-- A text in quotes, with the signs escaped that need it. -/
def escaped (text : Octets) : Octets :=
  text.flatMap fun c =>
    if c = '"' || c = '\\' then ['\\', c] else if c = '\n' then "\\n".toList else [c]

/-- Some tokens as they are written, with a space wherever there is white space between them. -/
def spell : List Token → Octets
  | [] => []
  | t :: rest => t.text ++ rest.flatMap fun t => (if t.spaced then [' '] else []) ++ t.text

end Token

end CallbackWeave.Preprocessor

import CallbackWeave.Number.Literal
import CallbackWeave.Yaml.Cursor

/-!
The scalars of a YAML text as they are written: plain ones, those in quotes, and blocks. What is
taken is the text that a scalar stands for, with its lines folded as its form asks.
-/

namespace CallbackWeave.Yaml

/-- How a scalar is written. -/
inductive Style where
  | plain
  | single
  | double
  | literal
  | folded
deriving DecidableEq, Repr

/-- Blanks and line breaks between two words. -/
structure Gap where
  /-- The blanks before the first line break. -/
  blanks : List Char
  /-- Whether there is a line break, be it one that is left out. -/
  broken : Bool
  /-- The first line break that is not left out. -/
  first : Option Char
  /-- The line breaks after it. -/
  more : List Char

namespace Gap

/-- What a gap stands for: a single line break is folded into a space. -/
def text (g : Gap) : List Char :=
  if g.broken then
    match g.first, g.more with
    | some '\n', [] => [' ']
    | some '\n', more => more
    | first, more => first.toList ++ more
  else g.blanks

/-- The gap between words of a line. -/
def none : Gap := ⟨[], false, .none, []⟩

/-- The gap after a line break that is left out. -/
def escaped : Gap := ⟨[], true, .none, []⟩

/-- The gap with one blank more; blanks at the front of a line are dropped. -/
def addBlank (g : Gap) (c : Char) : Gap :=
  if g.broken then g else { g with blanks := g.blanks ++ [c] }

/-- The gap with one line break more. -/
def addBreak (g : Gap) (c : Char) : Gap :=
  if g.broken then { g with more := g.more ++ [c] } else ⟨[], true, some c, []⟩

end Gap

/-- Takes blanks and line breaks. In a broken gap a tab before the column `indent` is refused.
`fuel` bounds their number. -/
def readGap (indent : Nat) (start : Mark) : Nat → Gap → Cursor → Except Fault (Gap × Cursor)
  | 0, gap, cursor => .ok (gap, cursor)
  | fuel + 1, gap, cursor =>
    match cursor.rest with
    | [] => .ok (gap, cursor)
    | c :: _ =>
      if isBlank c then
        if gap.broken ∧ cursor.mark.column < indent ∧ c = '\t' then
          .error ⟨"found a tab character that violates indentation", cursor.mark,
            some ("while scanning a plain scalar", start)⟩
        else readGap indent start fuel (gap.addBlank c) (cursor.skip 1)
      else
        match cursor.lineBreak? with
        | some c => readGap indent start fuel (gap.addBreak c) cursor.nextLine
        | none => .ok (gap, cursor)

/-! ## Plain scalars -/

/-- A scalar that has been taken: its text, where it ends, and the place after it. -/
structure Taken where
  text : List Char
  finish : Mark
  cursor : Cursor
  /-- Whether the place is on a line of its own. -/
  fresh : Bool

/-- A character that ends a word among brackets. -/
def isFlowMark (c : Char) : Bool := c = ',' || c = '[' || c = ']' || c = '{' || c = '}'

/-- Whether a plain scalar cannot go on with a text. -/
def endsPlain (flow : Bool) : List Char → Bool
  | [] => true
  | ':' :: rest => atGap rest
  | c :: _ => flow && isFlowMark c

/-- A colon that is neither part of a word nor an indicator. -/
def isStrayColon (flow : Bool) : List Char → Bool
  | ':' :: c :: _ => flow && (isFlowMark c || c = '?')
  | _ => false

/-- Takes a plain scalar from a word or the middle of one on. `gap` is what stands before it and
after the last word, `text` what has been taken in reverse. `fuel` bounds the characters. -/
def readPlain (flow : Bool) (indent : Nat) (start : Mark) :
    Nat → List Char → Mark → Gap → Cursor → Except Fault Taken
  | 0, text, finish, gap, cursor => .ok ⟨text.reverse, finish, cursor, gap.broken⟩
  | fuel + 1, text, finish, gap, cursor =>
    let done : Taken := ⟨text.reverse, finish, cursor, gap.broken⟩
    match cursor.rest with
    | [] => .ok done
    | c :: _ =>
      if atGap cursor.rest then do
        let (gap, cursor) ← readGap indent start (cursor.rest.length + 1) .none cursor
        if (!flow && cursor.mark.column < indent) || cursor.atSeparator || cursor.sees '#' then
          return ⟨text.reverse, finish, cursor, gap.broken⟩
        readPlain flow indent start fuel text finish gap cursor
      else if isStrayColon flow cursor.rest then
        .error ⟨"found unexpected ':'", cursor.mark, some ("while scanning a plain scalar", start)⟩
      else if endsPlain flow cursor.rest then .ok done
      else
        let next := cursor.skip 1
        readPlain flow indent start fuel (c :: gap.text.reverse ++ text) next.mark .none next

/-! ## Scalars in quotes -/

/-- What is under way in a scalar in quotes. -/
def quotedActivity : String := "while scanning a quoted scalar"

/-- The character of a letter after a backslash. -/
def escape? (c : Char) : Option Char :=
  [('0', '\x00'), ('a', '\x07'), ('b', '\x08'), ('t', '\t'), ('\t', '\t'), ('n', '\n'),
    ('v', '\x0B'), ('f', '\x0C'), ('r', '\r'), ('e', '\x1B'), (' ', ' '), ('"', '"'), ('/', '/'),
    ('\\', '\\'), ('N', '\x85'), ('_', '\xA0'), ('L', '\u2028'), ('P', '\u2029')].lookup c

/-- The number of digits after a letter that stands for a numeric escape. -/
def escapeDigits? (c : Char) : Option Nat :=
  [('x', 2), ('u', 4), ('U', 8)].lookup c

/-- Takes an escape; the cursor is at its backslash. -/
def readEscape (start : Mark) (cursor : Cursor) : Except Fault (Char × Cursor) :=
  let fault (problem : String) (place : Mark) : Fault :=
    ⟨problem, place, some ("while parsing a quoted scalar", start)⟩
  match cursor.rest with
  | _ :: letter :: rest =>
    match escape? letter, escapeDigits? letter with
    | some c, _ => .ok (c, cursor.skip 2)
    | none, some count =>
      let place := (cursor.skip 2).mark
      match (if rest.length < count then none else Number.natOfDigits? 16 (rest.take count)) with
      | none => .error (fault "did not find expected hexdecimal number" place)
      | some value =>
        if (0xD800 ≤ value ∧ value ≤ 0xDFFF) ∨ value > 0x10FFFF then
          .error (fault "found invalid Unicode character escape code" place)
        else .ok (Char.ofNat value, cursor.skip (2 + count))
    | none, none => .error (fault "found unknown escape character" cursor.mark)
  | _ => .error (fault "found unknown escape character" cursor.mark)

/-- Takes a scalar in quotes after the quote that opens it. `text` is what has been taken in
reverse, and `fuel` bounds the characters. -/
def readQuoted (single : Bool) (start : Mark) :
    Nat → List Char → Cursor → Except Fault (List Char × Cursor)
  | 0, text, cursor => .ok (text.reverse, cursor)
  | fuel + 1, text, cursor =>
    if cursor.atSeparator then
      .error ⟨"found unexpected document indicator", cursor.mark, some (quotedActivity, start)⟩
    else
      match cursor.rest with
      | [] => .error ⟨"found unexpected end of stream", cursor.mark, some (quotedActivity, start)⟩
      | c :: rest =>
        if atGap cursor.rest then do
          let (gap, cursor) ← readGap 0 start (cursor.rest.length + 1) .none cursor
          readQuoted single start fuel (gap.text.reverse ++ text) cursor
        else if single && c = '\'' && rest.head? == some '\'' then
          readQuoted single start fuel ('\'' :: text) (cursor.skip 2)
        else if c = (if single then '\'' else '"') then .ok (text.reverse, cursor.skip 1)
        else if !single && c = '\\' then
          if !rest.isEmpty && atLineEnd rest then do
            let next := (cursor.skip 1).nextLine
            let (gap, cursor) ← readGap 0 start (next.rest.length + 1) .escaped next
            readQuoted single start fuel (gap.text.reverse ++ text) cursor
          else do
            let (c, cursor) ← readEscape start cursor
            readQuoted single start fuel (c :: text) cursor
        else readQuoted single start fuel (c :: text) (cursor.skip 1)

/-! ## Blocks -/

/-- What becomes of the line breaks at the end of a block. -/
inductive Chomping where
  | strip
  | clip
  | keep
deriving DecidableEq

/-- What is under way in a block. -/
def blockActivity : String := "while scanning a block scalar"

/-- Takes the indicator of what becomes of the last line breaks. -/
def readChomping (cursor : Cursor) : Option Chomping × Cursor :=
  if cursor.sees '+' then (some .keep, cursor.skip 1)
  else if cursor.sees '-' then (some .strip, cursor.skip 1)
  else (none, cursor)

/-- Takes the indicator of the indentation. -/
def readIndentation (start : Mark) (cursor : Cursor) : Except Fault (Nat × Cursor) :=
  match cursor.rest with
  | '0' :: _ =>
    .error ⟨"found an indentation indicator equal to 0", cursor.mark, some (blockActivity, start)⟩
  | c :: _ =>
    if c.isDigit then .ok (c.toNat - '0'.toNat, cursor.skip 1) else .ok (0, cursor)
  | [] => .ok (0, cursor)

/-- Takes the two indicators of a block in either order; zero stands for no indentation. -/
def readIndicators (start : Mark) (cursor : Cursor) : Except Fault (Chomping × Nat × Cursor) := do
  match readChomping cursor with
  | (some chomping, cursor) =>
    let (indentation, cursor) ← readIndentation start cursor
    return (chomping, indentation, cursor)
  | (none, cursor) =>
    let (indentation, cursor) ← readIndentation start cursor
    if indentation = 0 then return (.clip, 0, cursor)
    let (chomping, cursor) := readChomping cursor
    return (chomping.getD .clip, indentation, cursor)

/-- Takes the indentation of a line of a block and the empty lines before it. `indent` is the
column of the block, or zero while it is not known; `deepest` is the greatest column reached. -/
def readEmptyLines (indent : Nat) (start : Mark) :
    Nat → Nat → List Char → Cursor → Except Fault (Nat × List Char × Cursor)
  | 0, deepest, breaks, cursor => .ok (deepest, breaks, cursor)
  | fuel + 1, deepest, breaks, cursor =>
    let spaces := (cursor.rest.takeWhile (· = ' ')).length
    let wanted := if indent = 0 then spaces else min spaces (indent - cursor.mark.column)
    let cursor := cursor.skip wanted
    let deepest := max deepest cursor.mark.column
    if (indent = 0 ∨ cursor.mark.column < indent) ∧ cursor.sees '\t' then
      .error ⟨"found a tab character where an indentation space is expected", cursor.mark,
        some (blockActivity, start)⟩
    else
      match cursor.lineBreak? with
      | some c => readEmptyLines indent start fuel deepest (breaks ++ [c]) cursor.nextLine
      | none => .ok (deepest, breaks, cursor)

/-- What stands between two lines of a block. A folded block turns a single line break into a
space unless one of the lines begins with a blank. -/
def joinLines (literal previousBlank blank : Bool) (first : Option Char) (breaks : List Char) :
    List Char :=
  if !literal && first == some '\n' && !previousBlank && !blank then
    if breaks.isEmpty then [' '] else breaks
  else first.toList ++ breaks

/-- Takes the lines of a block. `first` is the line break after the last line, `breaks` those of
the empty lines after it; `text` is what has been taken in reverse. -/
def readBlockLines (literal : Bool) (indent : Nat) (start : Mark) :
    Nat → Bool → Option Char → List Char → List Char → Cursor →
      Except Fault (Option Char × List Char × List Char × Cursor)
  | 0, _, first, breaks, text, cursor => .ok (first, breaks, text, cursor)
  | fuel + 1, previousBlank, first, breaks, text, cursor =>
    if cursor.mark.column = indent ∧ !cursor.rest.isEmpty then do
      let blank := cursor.rest.head?.any isBlank
      let line := cursor.rest.takeWhile (!isBreak ·)
      let text :=
        line.reverse ++ (joinLines literal previousBlank blank first breaks).reverse ++ text
      let ended := cursor.skip line.length
      let (_, breaks, cursor) ←
        readEmptyLines indent start (ended.rest.length + 1) 0 [] ended.nextLine
      readBlockLines literal indent start fuel blank ended.lineBreak? breaks text cursor
    else .ok (first, breaks, text, cursor)

/-- Takes a block; the cursor is at its first indicator. `outer` is the column of what the block
stands in, if it stands in anything. -/
def readBlock (literal : Bool) (outer : Option Nat) (cursor : Cursor) :
    Except Fault (List Char × Cursor) := do
  let start := cursor.mark
  let (chomping, indentation, cursor) ← readIndicators start (cursor.skip 1)
  let cursor := (cursor.skipWhile isBlank).skipComment
  if !atLineEnd cursor.rest then
    throw ⟨"did not find expected comment or line break", cursor.mark, some (blockActivity, start)⟩
  let cursor := cursor.nextLine
  let given := if indentation = 0 then 0 else outer.getD 0 + indentation
  let (deepest, breaks, cursor) ← readEmptyLines given start (cursor.rest.length + 1) 0 [] cursor
  let least := match outer with
    | some column => column + 1
    | none => 1
  let indent := if given = 0 then max deepest least else given
  let (first, breaks, text, cursor) ←
    readBlockLines literal indent start (cursor.rest.length + 1) false none breaks [] cursor
  let tail := match chomping with
    | .strip => []
    | .clip => first.toList
    | .keep => first.toList ++ breaks
  return (text.reverse ++ tail, cursor)

end CallbackWeave.Yaml

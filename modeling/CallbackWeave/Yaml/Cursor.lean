/-!
A place in a YAML text: what is left of the text, and how much lies before it. Line breaks are
those of the format, and a carriage return with a line feed is one of them.
-/

namespace CallbackWeave.Yaml

/-- How much of a text lies before a place: all characters, lines, and characters of the last
line. -/
structure Mark where
  index : Nat
  line : Nat
  column : Nat
deriving DecidableEq, Repr, Inhabited

/-- The front of a text. -/
def Mark.origin : Mark := ⟨0, 0, 0⟩

/-- The text of a mark; nothing is said of the front of a text. -/
def Mark.suffix (m : Mark) : String :=
  if m.line = 0 ∧ m.column = 0 then ""
  else " at line " ++ toString (m.line + 1) ++ " column " ++ toString (m.column + 1)

/-- Why a text is not well formed. -/
structure Fault where
  problem : String
  place : Mark
  /-- What was under way, and where that began. -/
  context : Option (String × Mark)
deriving DecidableEq, Repr

/-- The text of a fault. -/
def Fault.message (f : Fault) : String :=
  let context := match f.context with
    | none => ""
    | some (activity, start) =>
      let sameLine := start.line = f.place.line ∧ start.column = f.place.column
      ", " ++ activity ++ if sameLine then "" else start.suffix
  f.problem ++ f.place.suffix ++ context

/-- A line break. -/
def isBreak (c : Char) : Bool :=
  c = '\r' || c = '\n' || c = '\x85' || c = '\u2028' || c = '\u2029'

/-- A space or a tab. -/
def isBlank (c : Char) : Bool := c = ' ' || c = '\t'

/-- Whether a text is at the end of a line. -/
def atLineEnd : List Char → Bool
  | [] => true
  | c :: _ => isBreak c

/-- Whether a text begins with nothing that could belong to a word. -/
def atGap : List Char → Bool
  | [] => true
  | c :: _ => isBreak c || isBlank c

/-- A character of names in YAML. -/
def isNameChar (c : Char) : Bool := c.isAlphanum || c = '_' || c = '-'

/-- A place in a text. -/
structure Cursor where
  rest : List Char
  mark : Mark
deriving Repr

namespace Cursor

/-- Whether the text goes on with a character. -/
def sees (c : Cursor) (expected : Char) : Bool := c.rest.head? == some expected

/-- The place after a number of characters of a line. -/
def skip (c : Cursor) (count : Nat) : Cursor :=
  ⟨c.rest.drop count,
    { c.mark with index := c.mark.index + count, column := c.mark.column + count }⟩

/-- The place after the characters of a line that have a property. -/
def skipWhile (c : Cursor) (p : Char → Bool) : Cursor := c.skip (c.rest.takeWhile p).length

/-- The place at the front of the next line. -/
def nextLine (c : Cursor) : Cursor :=
  match c.rest with
  | '\r' :: '\n' :: rest => ⟨rest, ⟨c.mark.index + 2, c.mark.line + 1, 0⟩⟩
  | first :: rest =>
    if isBreak first then ⟨rest, ⟨c.mark.index + 1, c.mark.line + 1, 0⟩⟩ else c
  | [] => c

/-- The character that the line break here stands for. -/
def lineBreak? (c : Cursor) : Option Char :=
  match c.rest with
  | first :: _ =>
    if first = '\u2028' ∨ first = '\u2029' then some first
    else if isBreak first then some '\n'
    else none
  | [] => none

/-- The place after the comment here, if there is one. -/
def skipComment (c : Cursor) : Cursor :=
  if c.sees '#' then c.skipWhile (!isBreak ·) else c

/-- Whether a line that begins here separates documents. -/
def atSeparator (c : Cursor) : Bool :=
  c.mark.column = 0 &&
    match c.rest with
    | '-' :: '-' :: '-' :: rest => atGap rest
    | '.' :: '.' :: '.' :: rest => atGap rest
    | _ => false

end Cursor

end CallbackWeave.Yaml

import CallbackWeave.Host.Octets
import CallbackWeave.Text.CharacterClass

/-!
Patterns of a shell. A star stands for any text, a question mark for any character, and brackets for
one of those that they hold. What is quoted stands for itself.
-/

namespace CallbackWeave.Shell

/-- A character of a word, and whether it was quoted. -/
structure Glyph where
  char : Char
  quoted : Bool
deriving DecidableEq, Repr

namespace Glyph

/-- A character that was not quoted. -/
def isBare (g : Glyph) (c : Char) : Bool := !g.quoted && g.char = c

/-- A text as glyphs. -/
def ofText (quoted : Bool) (text : Octets) : List Glyph := text.map fun c => ⟨c, quoted⟩

/-- The text of glyphs. -/
def text (glyphs : List Glyph) : Octets := glyphs.map Glyph.char

end Glyph

/-- A piece of a pattern. -/
inductive PatternItem where
  | one (c : Char)
  | any
  | many
  | choice (negated : Bool) (members : List Text.Member)
deriving DecidableEq, Repr

/-- A pattern. -/
abbrev Pattern := List PatternItem

namespace Pattern

/-- Drops the backslash in front of a character. -/
def unescape : List Glyph → List Glyph
  | ⟨'\\', false⟩ :: g :: rest => ⟨g.char, true⟩ :: rest
  | glyphs => glyphs

/-- Reads what brackets hold, up to the bracket that closes them and stands at the front after the
first member. `fuel` bounds the members. -/
def members? : Nat → Bool → List Glyph → Option (List Text.Member × List Glyph)
  | 0, _, _ => none
  | fuel + 1, isFirst, glyphs =>
    let goOn (m : Text.Member) (rest : List Glyph) : Option (List Text.Member × List Glyph) :=
      (members? fuel false rest).map fun (more, rest) => (m :: more, rest)
    let plain (glyphs : List Glyph) : Option (List Text.Member × List Glyph) :=
      match unescape glyphs with
      | [] => none
      | first :: rest =>
        match rest with
        | dash :: last :: rest' =>
          if dash.isBare '-' && !last.isBare ']' then
            match unescape (last :: rest') with
            | last :: rest => goOn (.range first.char last.char) rest
            | [] => none
          else goOn (.range first.char first.char) rest
        | _ => goOn (.range first.char first.char) rest
    match glyphs with
    | [] => none
    | g :: rest =>
      if g.isBare ']' && !isFirst then some ([], rest)
      else
        match rest with
        | ⟨':', _⟩ :: inside =>
          if g.isBare '[' then
            match Text.splitClass? (Glyph.text inside) with
            | some (kind, after) => goOn (.named kind) (inside.drop (inside.length - after.length))
            | none => plain glyphs
          else plain glyphs
        | _ => plain glyphs

/-- Reads a pattern. Brackets that are not closed stand for themselves. `fuel` bounds the pieces. -/
def read : Nat → List Glyph → Pattern
  | 0, _ => []
  | _, [] => []
  | fuel + 1, g :: rest =>
    if g.quoted then .one g.char :: read fuel rest
    else
      match g.char with
      | '*' => .many :: read fuel rest
      | '?' => .any :: read fuel rest
      | '\\' =>
        match rest with
        | next :: rest => .one next.char :: read fuel rest
        | [] => [.one '\\']
      | '[' =>
        let (negated, inside) := match rest with
          | ⟨'!', false⟩ :: inside => (true, inside)
          | inside => (false, inside)
        match members? (inside.length + 1) true inside with
        | some (members, rest) => .choice negated members :: read fuel rest
        | none => .one '[' :: read fuel rest
      | c => .one c :: read fuel rest

/-- The pattern that a word writes. -/
def ofGlyphs (glyphs : List Glyph) : Pattern := read glyphs.length glyphs

/-- Whether a property holds of some end of a text, the whole text included. -/
def someEnd (p : Octets → Bool) : Octets → Bool
  | [] => p []
  | c :: rest => p (c :: rest) || someEnd p rest

/-- Whether a pattern fits a whole text. -/
def fits : Pattern → Octets → Bool
  | [], text => text.isEmpty
  | .many :: rest, text => someEnd (fits rest) text
  | .one c :: rest, text =>
    match text with
    | d :: text => c = d && fits rest text
    | [] => false
  | .any :: rest, text =>
    match text with
    | _ :: text => fits rest text
    | [] => false
  | .choice negated members :: rest, text =>
    match text with
    | c :: text => members.any (·.holds c) != negated && fits rest text
    | [] => false

/-- A text without the part at its front or its end that a pattern fits, the shortest or the longest
one. -/
def trim (pattern : Pattern) (atFront longest : Bool) (text : Octets) : Octets :=
  let lengths := List.range (text.length + 1)
  let part (n : Nat) : Octets := if atFront then text.take n else text.drop (text.length - n)
  match (if longest then lengths.reverse else lengths).find? fun n => pattern.fits (part n) with
  | some n => if atFront then text.drop n else text.take (text.length - n)
  | none => text

/-- Whether a pattern stands for more than one text. -/
def isWild (pattern : Pattern) : Bool :=
  pattern.any fun
    | .one _ => false
    | _ => true

end Pattern

end CallbackWeave.Shell

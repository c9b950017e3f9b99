import CallbackWeave.Text.Utf8
import CallbackWeave.Yaml.Scalar

/-!
The tokens of a YAML text: its indicators and scalars, the directives before a document, and the
tags and anchors of nodes. Blocks begin and end with tokens of their own, which stand for changes
of the indentation.
-/

namespace CallbackWeave.Yaml

/-- What a token is. -/
inductive TokenKind where
  | streamEnd
  | versionDirective (major minor : Nat)
  | tagDirective (handle lead : String)
  | documentStart
  | documentEnd
  | blockSequenceStart
  | blockMappingStart
  | blockEnd
  | flowSequenceStart
  | flowSequenceEnd
  | flowMappingStart
  | flowMappingEnd
  | blockEntry
  | flowEntry
  | key
  | value
  | alias (name : String)
  | anchor (name : String)
  | tag (handle suffix : String)
  | scalar (text : String) (style : Style)
deriving DecidableEq, Repr

/-- A token, where it begins and where it ends. -/
structure Token where
  kind : TokenKind
  start : Mark
  finish : Mark
deriving Repr

/-! ## Directives -/

/-- What is under way in a directive. -/
def directiveActivity : String := "while scanning a directive"

/-- Takes a number of a version. -/
def readVersionNumber (start : Mark) (cursor : Cursor) : Except Fault (Nat × Cursor) :=
  let digits := cursor.rest.takeWhile Char.isDigit
  let fault (problem : String) (place : Mark) : Fault :=
    ⟨problem, place, some ("while scanning a %YAML directive", start)⟩
  if digits.isEmpty then .error (fault "did not find expected version number" cursor.mark)
  else if digits.length > 9 then
    .error (fault "found extremely long version number" (cursor.skip 9).mark)
  else .ok (Number.natOfDecimals digits, cursor.skip digits.length)

/-- Takes the value of a version directive. -/
def readVersion (start : Mark) (cursor : Cursor) : Except Fault (TokenKind × Cursor) := do
  let (major, cursor) ← readVersionNumber start (cursor.skipWhile isBlank)
  if !cursor.sees '.' then
    throw ⟨"did not find expected digit or '.' character", cursor.mark,
      some ("while scanning a %YAML directive", start)⟩
  let (minor, cursor) ← readVersionNumber start (cursor.skip 1)
  return (.versionDirective major minor, cursor)

/-- What is under way in a tag. -/
def tagActivity (directive : Bool) : String :=
  if directive then "while scanning a %TAG directive" else "while scanning a tag"

/-- Takes a handle: an exclamation mark, or two with a name between them. -/
def readHandle (directive : Bool) (start : Mark) (cursor : Cursor) :
    Except Fault (String × Cursor) := do
  let activity := if directive then "while scanning a directive" else "while scanning a tag"
  if !cursor.sees '!' then
    throw ⟨"did not find expected '!'", cursor.mark, some (activity, start)⟩
  let name := (cursor.skip 1).rest.takeWhile isNameChar
  let cursor := cursor.skip (1 + name.length)
  if cursor.sees '!' then return (String.ofList ('!' :: name ++ ['!']), cursor.skip 1)
  if directive && !name.isEmpty then
    throw ⟨"while parsing a directive", cursor.mark, some ("did not find expected '!'", start)⟩
  return (String.ofList ('!' :: name), cursor)

/-- A character of a tag; `verbatim` says that brackets are allowed. -/
def isTagChar (verbatim : Bool) (c : Char) : Bool :=
  isNameChar c || ";/?:@&=+$.%!~*'()".toList.contains c || verbatim && ",[]".toList.contains c

/-- The number of bytes of a character from its first byte. -/
def widthOfLead? (byte : Nat) : Option Nat :=
  if byte < 0x80 then some 1
  else if byte / 0x20 = 6 then some 2
  else if byte / 0x10 = 14 then some 3
  else if byte / 0x08 = 30 then some 4
  else none

/-- Takes the bytes of one character of a tag that are written in hexadecimal. `left` is the number
of bytes that are still expected, zero before the first. -/
def readOctets (directive : Bool) (start : Mark) :
    Nat → Nat → Bytes → Cursor → Except Fault (Bytes × Cursor)
  | 0, _, bytes, cursor => .ok (bytes, cursor)
  | fuel + 1, left, bytes, cursor =>
    let fault (problem : String) : Fault :=
      ⟨problem, cursor.mark, some ((if directive then "while parsing a %TAG directive"
        else "while parsing a tag"), start)⟩
    match cursor.rest with
    | '%' :: a :: b :: _ =>
      match Number.natOfDigits? 16 [a, b] with
      | none => .error (fault "did not find URI escaped octet")
      | some byte =>
        let bytes := bytes ++ [byte.toUInt8]
        if left = 0 then
          match widthOfLead? byte with
          | none => .error (fault "found an incorrect leading UTF-8 octet")
          | some width =>
            if width = 1 then .ok (bytes, cursor.skip 3)
            else readOctets directive start fuel (width - 1) bytes (cursor.skip 3)
        else if byte / 0x40 ≠ 2 then .error (fault "found an incorrect trailing UTF-8 octet")
        else if left = 1 then .ok (bytes, cursor.skip 3)
        else readOctets directive start fuel (left - 1) bytes (cursor.skip 3)
    | _ => .error (fault "did not find URI escaped octet")

/-- Takes the characters of a tag. `fuel` bounds their number. -/
def readTagChars (verbatim directive : Bool) (start : Mark) :
    Nat → Bytes → Cursor → Except Fault (Bytes × Cursor)
  | 0, bytes, cursor => .ok (bytes, cursor)
  | fuel + 1, bytes, cursor =>
    match cursor.rest with
    | [] => .ok (bytes, cursor)
    | c :: _ =>
      if c = '%' then do
        let (octets, cursor) ← readOctets directive start 5 0 [] cursor
        readTagChars verbatim directive start fuel (bytes ++ octets) cursor
      else if isTagChar verbatim c then
        readTagChars verbatim directive start fuel (bytes ++ Utf8.encodeChars [c]) (cursor.skip 1)
      else .ok (bytes, cursor)

/-- Takes a tag after the part `lead` of it, which may be empty only if something follows. -/
def readTagText (verbatim directive : Bool) (lead : String) (start : Mark) (cursor : Cursor) :
    Except Fault (String × Cursor) := do
  let (bytes, next) ← readTagChars verbatim directive start (cursor.rest.length + 1) [] cursor
  if lead.isEmpty && bytes.isEmpty then
    throw ⟨"did not find expected tag URI", next.mark,
      some ((if directive then "while parsing a %TAG directive" else "while parsing a tag"), start)⟩
  return (String.ofList (lead.toList.drop 1) ++ Utf8.decodeLossy bytes, next)

/-- Takes the value of a tag directive. -/
def readTagDirective (start : Mark) (cursor : Cursor) : Except Fault (TokenKind × Cursor) := do
  let fault (place : Mark) : Fault :=
    ⟨"did not find expected whitespace", place, some (tagActivity true, start)⟩
  let (handle, cursor) ← readHandle true start (cursor.skipWhile isBlank)
  if !cursor.rest.head?.any isBlank then throw (fault cursor.mark)
  let (lead, cursor) ← readTagText true true "" start (cursor.skipWhile isBlank)
  if !atGap cursor.rest then
    throw ⟨"did not find expected whitespace or line break", cursor.mark,
      some (tagActivity true, start)⟩
  return (.tagDirective handle lead, cursor)

/-- Takes a directive; the cursor is at its percent sign. -/
def readDirective (cursor : Cursor) : Except Fault (Token × Cursor) := do
  let start := cursor.mark
  let fault (problem : String) (place : Mark) : Fault :=
    ⟨problem, place, some (directiveActivity, start)⟩
  let name := (cursor.skip 1).rest.takeWhile isNameChar
  let cursor := cursor.skip (1 + name.length)
  if name.isEmpty then throw (fault "could not find expected directive name" cursor.mark)
  if !atGap cursor.rest then
    throw (fault "found unexpected non-alphabetical character" cursor.mark)
  let (kind, cursor) ←
    if name = "YAML".toList then readVersion start cursor
    else if name = "TAG".toList then readTagDirective start cursor
    else throw (fault "found unknown directive name" cursor.mark)
  let finish := cursor.mark
  let cursor := (cursor.skipWhile isBlank).skipComment
  if !atLineEnd cursor.rest then
    throw (fault "did not find expected comment or line break" cursor.mark)
  return (⟨kind, start, finish⟩, cursor.nextLine)

/-! ## Properties of nodes -/

/-- Takes a name after its ampersand or asterisk. -/
def readAnchor (isAlias : Bool) (cursor : Cursor) : Except Fault (Token × Cursor) :=
  let name := (cursor.skip 1).rest.takeWhile isNameChar
  let next := cursor.skip (1 + name.length)
  let ends := atGap next.rest || next.rest.head?.any "?:,]\x7d%@\x60".toList.contains
  if name.isEmpty || !ends then
    .error ⟨"did not find expected alphabetic or numeric character", next.mark,
      some ((if isAlias then "while scanning an alias" else "while scanning an anchor"),
        cursor.mark)⟩
  else
    let kind := if isAlias then TokenKind.alias (String.ofList name)
      else .anchor (String.ofList name)
    .ok (⟨kind, cursor.mark, next.mark⟩, next)

/-- The handle and the suffix of a tag that is written after an exclamation mark. -/
def readShorthand (start : Mark) (cursor : Cursor) :
    Except Fault (String × String × Cursor) := do
  let (handle, next) ← readHandle false start cursor
  if handle.length > 1 ∧ handle.toList.getLast? = some '!' then
    let (suffix, next) ← readTagText false false "" start next
    return (handle, suffix, next)
  let (suffix, next) ← readTagText false false handle start next
  return if suffix.isEmpty then ("", "!", next) else ("!", suffix, next)

/-- Takes a tag; the cursor is at its exclamation mark. -/
def readTag (flow : Bool) (cursor : Cursor) : Except Fault (Token × Cursor) := do
  let start := cursor.mark
  let (handle, suffix, cursor) ←
    if (cursor.skip 1).sees '<' then do
      let (suffix, next) ← readTagText true false "" start (cursor.skip 2)
      if !next.sees '>' then
        throw ⟨"did not find the expected '>'", next.mark, some (tagActivity false, start)⟩
      pure ("", suffix, next.skip 1)
    else readShorthand start cursor
  if !(flow && cursor.sees ',') && !atGap cursor.rest then
    throw ⟨"did not find expected whitespace or line break", cursor.mark,
      some (tagActivity false, start)⟩
  return (⟨.tag handle suffix, start, cursor.mark⟩, cursor)

end CallbackWeave.Yaml

/-!
The classes of characters that patterns call by their names. They hold ASCII characters only, since
each octet counts as a character here.
-/

namespace CallbackWeave.Text

/-- A named class of characters. -/
inductive CharacterClass where
  | alnum | alpha | blank | cntrl | digit | graph | lower | print | punct | space | upper | xdigit
deriving DecidableEq, Repr

namespace CharacterClass

/-- The class of a name. -/
def ofName? (name : List Char) : Option CharacterClass :=
  match String.ofList name with
  | "alnum" => some alnum
  | "alpha" => some alpha
  | "blank" => some blank
  | "cntrl" => some cntrl
  | "digit" => some digit
  | "graph" => some graph
  | "lower" => some lower
  | "print" => some print
  | "punct" => some punct
  | "space" => some space
  | "upper" => some upper
  | "xdigit" => some xdigit
  | _ => none

/-- Whether a class holds a character. -/
def holds (k : CharacterClass) (c : Char) : Bool :=
  match k with
  | alnum => c.isAlphanum
  | alpha => c.isAlpha
  | blank => c = ' ' || c = '\t'
  | cntrl => c < ' ' || c = '\x7F'
  | digit => c.isDigit
  | graph => '!' ≤ c && c ≤ '~'
  | lower => c.isLower
  | print => ' ' ≤ c && c ≤ '~'
  | punct => '!' ≤ c && c ≤ '~' && !c.isAlphanum
  | space => c = ' ' || '\t' ≤ c && c ≤ '\r'
  | upper => c.isUpper
  | xdigit => c.isDigit || 'a' ≤ c && c ≤ 'f' || 'A' ≤ c && c ≤ 'F'

end CharacterClass

/-- What brackets in a pattern hold. -/
inductive Member where
  | range (first last : Char)
  | named (kind : CharacterClass)
deriving DecidableEq, Repr

/-- Whether a member of brackets stands for a character. -/
def Member.holds (c : Char) : Member → Bool
  | range first last => first ≤ c && c ≤ last
  | named kind => kind.holds c

/-- Splits off the name of a class that is written between `[:` and `:]`, of which the first two
characters have been read. -/
def splitClass? (text : List Char) : Option (CharacterClass × List Char) :=
  let name := text.takeWhile Char.isAlpha
  match text.drop name.length with
  | ':' :: ']' :: rest => (CharacterClass.ofName? name).map fun k => (k, rest)
  | _ => none

end CallbackWeave.Text

/-!
Blank characters and the entries of a plain list file. `isBlank` holds of the characters with
the White_Space property; `trim` removes them from both ends of a line.
-/

namespace CallbackWeave.Text

/-- The characters with the White_Space property. -/
def isBlank (c : Char) : Bool :=
  c.isWhitespace || c = '\x0B' || c = '\x0C' || c = '\x85' || c = '\xA0' || c = '\u1680'
    || ('\u2000' ≤ c && c ≤ '\u200A') || c = '\u2028' || c = '\u2029' || c = '\u202F'
    || c = '\u205F' || c = '\u3000'

/-- A line without the blanks at its two ends. -/
def trim (line : List Char) : List Char :=
  ((line.dropWhile isBlank).reverse.dropWhile isBlank).reverse

/-- The lines of a text, without the line feeds that end them. -/
def lines (text : List Char) : List (List Char) := text.splitOn '\n'

/-- The entries of a list: its lines with blanks trimmed, empty ones left out. -/
def entries (text : List Char) : List (List Char) :=
  ((lines text).map trim).filter (!·.isEmpty)

end CallbackWeave.Text

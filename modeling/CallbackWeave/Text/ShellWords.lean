/-!
The words of a shell command line: blanks separate words, quotes and backslashes keep characters
from doing so, and a number sign at the start of a word begins a comment. Nothing is expanded.
-/

namespace CallbackWeave.Text

/-- Where in a command line a character stands. -/
inductive Quotation where
  /-- Between words. -/
  | between
  /-- In a comment, which the end of the line ends. -/
  | comment
  /-- In a word, outside quotes. -/
  | plain
  /-- In single quotes. -/
  | single
  /-- In double quotes. -/
  | double
deriving DecidableEq, Repr

/-- A character that separates words. -/
def isSeparator (c : Char) : Bool := c = ' ' || c = '\t' || c = '\n'

/-- A character that loses its meaning after a backslash in double quotes. -/
def isEscapable (c : Char) : Bool := c = '$' || c = '\x60' || c = '"' || c = '\\'

/-- The words of the rest of a command line. `word` holds the characters of the word under way,
last one first. -/
def wordsFrom : Quotation → List Char → List Char → Option (List (List Char))
  | .between, _, [] => some []
  | .comment, _, [] => some []
  | .plain, word, [] => some [word.reverse]
  | .single, _, [] => none
  | .double, _, [] => none
  | .comment, word, c :: rest => wordsFrom (if c = '\n' then .between else .comment) word rest
  | .single, word, c :: rest =>
    if c = '\'' then wordsFrom .plain word rest else wordsFrom .single (c :: word) rest
  | .double, word, '\\' :: rest =>
    match rest with
    | [] => none
    | c :: rest =>
      if c = '\n' then wordsFrom .double word rest
      else if isEscapable c then wordsFrom .double (c :: word) rest
      else wordsFrom .double (c :: '\\' :: word) rest
  | .double, word, c :: rest =>
    if c = '"' then wordsFrom .plain word rest else wordsFrom .double (c :: word) rest
  | _, word, '\\' :: rest =>
    match rest with
    | [] => none
    | c :: rest => wordsFrom .plain (if c = '\n' then word else c :: word) rest
  | mode, word, c :: rest =>
    if isSeparator c then
      if mode = .plain then (wordsFrom .between [] rest).map (word.reverse :: ·)
      else wordsFrom .between [] rest
    else if c = '"' then wordsFrom .double word rest
    else if c = '\'' then wordsFrom .single word rest
    else if mode = .between ∧ c = '#' then wordsFrom .comment word rest
    else wordsFrom .plain (c :: word) rest

/-- The words of a command line; `none` if a quote or a backslash at its end is left open. -/
def shellWords? (line : String) : Option (List String) :=
  (wordsFrom .between [] line.toList).map (·.map String.ofList)

end CallbackWeave.Text

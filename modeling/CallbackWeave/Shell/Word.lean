import CallbackWeave.Shell.Command

/-!
Words as they are read from a script. A reader takes something off the front of a text. What stands
between the brackets of a substitution is a script of its own, so that readers of words are given a
reader of commands.
-/

namespace CallbackWeave.Shell

/-- A place in a script: what is left of it, the number of its line, and the number of lines that have
been taken out after this one. -/
structure Cursor where
  rest : Octets
  line : Nat
  hidden : Nat
  /-- The names that stand for other text where a command begins. -/
  aliases : List (Octets × Octets)

/-- Why a script cannot be read. -/
structure ReadFault where
  line : Nat
  message : Octets

/-- Takes something off the front of a script. -/
abbrev Reader := StateT Cursor (Except ReadFault)

namespace Reader

/-- Gives up. -/
def fault {α : Type} (message : String) : Reader α := fun c =>
  .error ⟨c.line, Octets.ofText message⟩

/-- What is left. -/
def rest : Reader Octets := fun c => .ok (c.rest, c)

/-- Goes over a number of characters. -/
def skip (count : Nat) : Reader Unit := fun c =>
  let lines := (c.rest.take count).count '\n'
  if lines = 0 then .ok ((), { c with rest := c.rest.drop count })
  else .ok ((), ⟨c.rest.drop count, c.line + lines + c.hidden, 0, c.aliases⟩)

/-- Takes characters as long as they have a property. -/
def takeWhile (p : Char → Bool) : Reader Octets := do
  let taken := (← rest).takeWhile p
  skip taken.length
  return taken

/-- Whether the text goes on in a certain way. -/
def sees (text : String) : Reader Bool := do return text.toList.isPrefixOf (← rest)

/-- Goes over a certain text, if it is there. -/
def takes (text : String) : Reader Bool := do
  if ← sees text then skip text.length; return true
  else return false

end Reader

open Reader

def isNameStart (c : Char) : Bool := c.isAlpha || c = '_'
def isNamePart (c : Char) : Bool := c.isAlphanum || c = '_'

/-- Whether a text is the name of a variable. -/
def isName : Octets → Bool
  | [] => false
  | c :: rest => isNameStart c && rest.all isNamePart

/-- A parameter whose name is a single sign. -/
def isSpecial (c : Char) : Bool := "@*#?$!-".toList.contains c

/-- A character that ends an unquoted word. -/
def endsWord (c : Char) : Bool := " \t\n;&|<>()".toList.contains c

/-- Where the parts of a word stand, which decides what ends them and which signs are special. -/
inductive Surrounding where
  /-- In a script, up to the end of the word. -/
  | bare
  /-- In double quotes. -/
  | quotes
  /-- In braces, which may themselves stand in double quotes. -/
  | braces (quoted : Bool)
  /-- In the brackets of an arithmetic expression, with the number of inner brackets. -/
  | expression (depth : Nat)
  /-- In a document, up to its end. -/
  | document
deriving DecidableEq, Repr

namespace Surrounding

/-- Whether only a few signs are special. -/
def isQuoted : Surrounding → Bool
  | bare | braces false => false
  | _ => true

/-- The signs before which a backslash is dropped. -/
def escaped : Surrounding → List Char
  | document | expression _ => "$\x60\\".toList
  | braces true => "$\x60\\\"\x7d".toList
  | _ => "$\x60\\\"".toList

/-- Characters that have no meaning of their own. -/
def isOrdinary (s : Surrounding) (c : Char) : Bool :=
  !"\\'\"$\x60\x7d()".toList.contains c && (s ≠ bare || !endsWord c)

/-- A part of characters that have no meaning of their own. -/
def text (s : Surrounding) (characters : Octets) : Part :=
  if s.isQuoted then .literal characters else .plain characters

end Surrounding

/-- The text between grave accents, without the backslashes that were needed to write it there. -/
def unaccented (quoted : Bool) : Octets → Octets → Option (Octets × Octets)
  | _, [] => none
  | seen, '\x60' :: rest => some (seen.reverse, rest)
  | seen, '\\' :: c :: rest =>
    if "$\x60\\".toList.contains c || quoted && c = '"' then unaccented quoted (c :: seen) rest
    else unaccented quoted (c :: '\\' :: seen) rest
  | seen, c :: rest => unaccented quoted (c :: seen) rest

/-- Takes the output of a script between grave accents. -/
def readAccented (commands : Reader Command) (quoted : Bool) : Reader Part := fun c =>
  match unaccented quoted [] c.rest with
  | none => .error ⟨c.line, "Syntax error: EOF in backquote substitution".toList⟩
  | some (script, rest) =>
    match commands ⟨script, c.line, 0, c.aliases⟩ with
    | .error fault => .error fault
    | .ok (body, ⟨[], _, _, _⟩) =>
      .ok (.output body quoted, { c with rest := rest, line := c.line + script.count '\n' })
    | .ok (_, left) => .error ⟨left.line, "Syntax error: word unexpected".toList⟩

/-- Takes the sign of an operation inside braces. -/
def readOperation : Reader Operation := do
  let colon ← takes ":"
  match ← rest with
  | '-' :: _ => skip 1; return .default colon
  | '=' :: _ => skip 1; return .assign colon
  | '?' :: _ => skip 1; return .demand colon
  | '+' :: _ => skip 1; return .alternative colon
  | c :: d :: _ =>
    if colon then return .unknown
    else if c = '}' then return .value
    else if c = '%' || c = '#' then
      skip (if d = c then 2 else 1)
      return .trim (c = '#') (d = c)
    else return .unknown
  | ['}'] => return if colon then .unknown else .value
  | _ => return .unknown

/-- Takes the name of a parameter inside braces. -/
def readParameterName : Reader Octets := do
  match ← rest with
  | c :: _ =>
    if isNameStart c then takeWhile isNamePart
    else if c.isDigit then takeWhile Char.isDigit
    else if isSpecial c then skip 1; return [c]
    else return []
  | [] => return []

/-- Whether what stands after a number sign in braces is the name of a parameter whose length is
asked for. -/
def asksForLength : Octets → Bool
  | [] | '}' :: _ => false
  | c :: '}' :: _ => isNameStart c || c.isDigit || isSpecial c
  | c :: _ => isNameStart c || c.isDigit

/-- Takes what stands in braces after a dollar sign; `parts` reads the parts of a word. -/
def readBraces (parts : Surrounding → Reader (List Part)) (quoted : Bool) : Reader Part := do
  let text ← rest
  match text with
  | '#' :: more =>
    if asksForLength more then
      skip 1
      let name ← readParameterName
      if ← takes "\x7d" then return .parameter name .length [] quoted
      else
        let word ← parts (.braces quoted)
        return .parameter name .unknown word quoted
  | _ => pure ()
  let name ← readParameterName
  let operation ← readOperation
  let inner : Surrounding := match operation with
    | .trim _ _ => .braces false
    | _ => .braces quoted
  let word ← parts inner
  return .parameter name (if name.isEmpty then .unknown else operation) word quoted

/-- Takes what stands after a dollar sign. -/
def readDollar (commands : Reader Command) (parts : Surrounding → Reader (List Part))
    (place : Surrounding) : Reader Part := do
  let quoted := place.isQuoted
  match ← rest with
  | '(' :: '(' :: _ =>
    skip 2
    return .arithmetic (← parts (.expression 0)) quoted
  | '(' :: _ =>
    skip 1
    let body ← commands
    if ← takes ")" then return .output body quoted
    else fault "Syntax error: end of file unexpected (expecting \")\")"
  | '{' :: _ =>
    skip 1
    readBraces parts quoted
  | c :: _ =>
    if isNameStart c then return .parameter (← takeWhile isNamePart) .value [] quoted
    else if c.isDigit || isSpecial c then
      skip 1
      return .parameter [c] .value [] quoted
    else return place.text ['$']
  | [] => return place.text ['$']

/-- What is told when a text ends too early. -/
def earlyEnd : Surrounding → Option String
  | .bare | .document => none
  | .quotes => some "Syntax error: Unterminated quoted string"
  | .braces _ => some "Syntax error: Missing '\x7d'"
  | .expression _ => some "Syntax error: Missing '))'"

/-- Takes the parts of a word with what ends them, which only in a script is left where it is. `fuel`
bounds their number. -/
def readParts (commands : Reader Command) : Nat → Surrounding → Reader (List Part)
  | 0, _ => fault "Syntax error: word too long"
  | fuel + 1, place => do
    let more (part : Part) (next : Surrounding) : Reader (List Part) := do
      return part :: (← readParts commands fuel next)
    match ← rest with
    | [] =>
      match earlyEnd place with
      | none => return []
      | some message => fault message
    | c :: after =>
      if place.isOrdinary c then more (place.text (← takeWhile place.isOrdinary)) place
      else if c = '\\' then
        match after with
        | [] => skip 1; more (.literal ['\\']) place
        | '\n' :: _ => skip 2; readParts commands fuel place
        | d :: _ =>
          skip 2
          if place.isQuoted && !place.escaped.contains d then more (.literal ['\\', d]) place
          else more (.literal [d]) place
      else if c = '$' then
        skip 1
        more (← readDollar commands (readParts commands fuel) place) place
      else if c = '\x60' then
        skip 1
        more (← readAccented commands place.isQuoted) place
      else
        match place with
        | .bare =>
          if endsWord c then return []
          else if c = '\'' then readSingle more place
          else if c = '"' then
            skip 1
            let inside ← readParts commands fuel .quotes
            let rest ← readParts commands fuel place
            return (if inside.isEmpty then [.literal []] else inside) ++ rest
          else
            skip 1
            more (.plain [c]) place
        | .quotes =>
          skip 1
          if c = '"' then return [] else more (.literal [c]) place
        | .braces quoted =>
          if c = '}' then skip 1; return []
          else if c = '\'' && !quoted then readSingle more place
          else if c = '"' then
            skip 1
            if quoted then readParts commands fuel place
            else
              let inside ← readParts commands fuel .quotes
              let rest ← readParts commands fuel place
              return (if inside.isEmpty then [.literal []] else inside) ++ rest
          else
            skip 1
            more (place.text [c]) place
        | .expression depth =>
          if c = '(' then skip 1; more (.literal ['(']) (.expression (depth + 1))
          else if c = ')' then
            if depth > 0 then skip 1; more (.literal [')']) (.expression (depth - 1))
            else if ← takes "))" then return []
            else skip 1; more (.literal [')']) place
          else skip 1; more (.literal [c]) place
        | .document =>
          skip 1
          more (.literal [c]) place
where
  readSingle (more : Part → Surrounding → Reader (List Part)) (place : Surrounding) :
      Reader (List Part) := do
    let text := (← rest).drop 1
    let inside := text.takeWhile (· ≠ '\'')
    if inside.length = text.length then fault "Syntax error: Unterminated quoted string"
    else
      skip (inside.length + 2)
      more (.literal inside) place

/-- Takes the word that begins here. -/
def readWord (commands : Reader Command) : Reader Word := do
  readParts commands ((← rest).length + 2) .bare

/-- The text of a word that is not quoted and not expanded. -/
def bareText? (word : Word) : Option Octets :=
  let bare? : Part → Option Octets
    | .plain s => some s
    | _ => none
  (word.mapM bare?).map List.flatten

/-- The text of a word as a mark that ends a document, and whether it was quoted. -/
def delimiter (word : Word) : Octets × Bool :=
  (word.flatMap fun
      | .plain s | .literal s => s
      | .parameter name _ _ _ => '$' :: name
      | _ => [],
    word.any fun
      | .literal _ => true
      | _ => false)

end CallbackWeave.Shell

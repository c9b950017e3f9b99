import CallbackWeave.Yaml.Token

/-!
From a YAML text to its tokens. A key of a mapping is known for one only when its colon comes, so
that tokens wait in a queue while a node in front of them may still turn out to be a key. Outside
brackets the column of a token opens and closes blocks.
-/

namespace CallbackWeave.Yaml

/-- A place at which a node began that may turn out to be a key. -/
structure PossibleKey where
  /-- Whether nothing but a key can stand there. -/
  required : Bool
  /-- The number of the token with which the node began. -/
  number : Nat
  mark : Mark

/-- What is known of a text up to a place. -/
structure Lexer where
  cursor : Cursor
  /-- The column of the innermost block, if there is one. -/
  indent : Option Nat
  /-- The columns of the blocks around it, innermost first. -/
  outer : List (Option Nat)
  /-- Whether a node may begin a key here. -/
  keyAllowed : Bool
  /-- The possible key outside brackets. -/
  blockKey : Option PossibleKey
  /-- The possible keys within the open brackets, innermost first. -/
  flowKeys : List (Option PossibleKey)
  /-- The tokens that have not been given away. -/
  queue : List Token
  /-- The number of tokens that have been given away. The front of the text counts as one. -/
  given : Nat
  /-- Whether the end of the text has become a token. -/
  ended : Bool

namespace Lexer

/-- Nothing is known yet. -/
def start (text : List Char) : Lexer where
  cursor := ⟨text, .origin⟩
  indent := none
  outer := []
  keyAllowed := true
  blockKey := none
  flowKeys := []
  queue := []
  given := 1
  ended := false

/-- Whether a bracket is open. -/
def inFlow (l : Lexer) : Bool := !l.flowKeys.isEmpty

/-- The possible key in the innermost bracket, or outside brackets. -/
def innerKey (l : Lexer) : Option PossibleKey :=
  match l.flowKeys with
  | key :: _ => key
  | [] => l.blockKey

/-- Replaces the innermost possible key. -/
def setInnerKey (l : Lexer) (key : Option PossibleKey) : Lexer :=
  match l.flowKeys with
  | _ :: rest => { l with flowKeys := key :: rest }
  | [] => { l with blockKey := key }

/-- Adds a token to the queue. -/
def add (l : Lexer) (token : Token) : Lexer := { l with queue := l.queue ++ [token] }

/-- Adds a token in front of the one that has a number. -/
def addBefore (l : Lexer) (number : Nat) (token : Token) : Lexer :=
  let place := number - l.given
  { l with queue := l.queue.take place ++ token :: l.queue.drop place }

/-- The fault of a required key that has not become one. -/
def keyFault (l : Lexer) (key : PossibleKey) : Fault :=
  ⟨"could not find expected ':'", l.cursor.mark, some ("while scanning a simple key", key.mark)⟩

/-- Whether a possible key has been left behind: a key is on one line and not long. -/
def isStale (l : Lexer) (key : PossibleKey) : Bool :=
  key.mark.line < l.cursor.mark.line || key.mark.index + 1024 < l.cursor.mark.index

/-- Forgets one possible key if it has been left behind. -/
def dropKeyIfStale (l : Lexer) (key : Option PossibleKey) : Except Fault (Option PossibleKey) :=
  match key with
  | none => .ok none
  | some key =>
    if l.isStale key then
      if key.required then .error (l.keyFault key) else .ok none
    else .ok (some key)

/-- Forgets the possible keys that have been left behind. -/
def dropStaleKeys (l : Lexer) : Except Fault Lexer := do
  let blockKey ← l.dropKeyIfStale l.blockKey
  let flowKeys ← l.flowKeys.reverse.mapM l.dropKeyIfStale
  return { l with blockKey := blockKey, flowKeys := flowKeys.reverse }

/-- Forgets the innermost possible key. -/
def dropKey (l : Lexer) : Except Fault Lexer :=
  match l.innerKey with
  | none => .ok l
  | some key => if key.required then .error (l.keyFault key) else .ok (l.setInnerKey none)

/-- Remembers that a node which may be a key begins here. -/
def saveKey (l : Lexer) : Except Fault Lexer :=
  if l.keyAllowed then do
    let required := !l.inFlow && l.indent == some l.cursor.mark.column
    let l ← l.dropKey
    return l.setInnerKey (some ⟨required, l.given + l.queue.length, l.cursor.mark⟩)
  else .ok l

/-- Opens a block at a column that lies deeper than the innermost one. Its token comes before the
one with the number, or last. -/
def openBlock (l : Lexer) (column : Nat) (number : Option Nat) (kind : TokenKind) (mark : Mark) :
    Lexer :=
  let deeper := match l.indent with
    | none => true
    | some indent => indent < column
  if l.inFlow || !deeper then l
  else
    let l := { l with outer := l.indent :: l.outer, indent := some column }
    let token : Token := ⟨kind, mark, mark⟩
    match number with
    | some number => l.addBefore number token
    | none => l.add token

/-- Closes the blocks that lie deeper than a column; without a column it closes all. -/
def closeBlocks (column : Option Nat) : List (Option Nat) → Lexer → Lexer
  | outer, l =>
    let deeper := match l.indent, column with
      | none, _ => false
      | some _, none => true
      | some indent, some column => column < indent
    if !deeper then l
    else
      match outer with
      | [] => l
      | above :: rest =>
        closeBlocks column rest
          { l.add ⟨.blockEnd, l.cursor.mark, l.cursor.mark⟩ with indent := above, outer := rest }

/-- Closes the blocks that lie deeper than a column, outside brackets. -/
def unroll (l : Lexer) (column : Option Nat) : Lexer :=
  if l.inFlow then l else closeBlocks column l.outer l

/-- Goes over blanks, comments and line breaks. A mark of the byte order may stand at the front of
a line, where it takes up a column. `fuel` bounds the lines. -/
def skipGap : Nat → Lexer → Lexer
  | 0, l => l
  | fuel + 1, l =>
    let isGap (c : Char) : Bool := c = ' ' || ((l.inFlow || !l.keyAllowed) && c = '\t')
    let start := if l.cursor.mark.column = 0 ∧ l.cursor.sees '\uFEFF' then l.cursor.skip 1
      else l.cursor
    let cursor := (start.skipWhile isGap).skipComment
    if cursor.lineBreak?.isSome then
      skipGap fuel { l with cursor := cursor.nextLine, keyAllowed := l.keyAllowed || !l.inFlow }
    else { l with cursor := cursor }

/-- Takes a token of some characters of a line. -/
def takeMark (l : Lexer) (length : Nat) (kind : TokenKind) : Lexer :=
  let next := l.cursor.skip length
  { l.add ⟨kind, l.cursor.mark, next.mark⟩ with cursor := next }

/-- Takes a token by its reader. -/
def takeBy (l : Lexer) (reader : Cursor → Except Fault (Token × Cursor)) : Except Fault Lexer := do
  let (token, cursor) ← reader l.cursor
  return { l.add token with cursor := cursor }

/-- Takes the end of the text, which is the end of its last line too. -/
def takeEnd (l : Lexer) : Except Fault Lexer := do
  let mark := l.cursor.mark
  let mark := if mark.column = 0 then mark else ⟨mark.index, mark.line + 1, 0⟩
  let l := { l with cursor := { l.cursor with mark := mark } }
  let l ← (l.unroll none).dropKey
  return { l.add ⟨.streamEnd, mark, mark⟩ with keyAllowed := false, ended := true }

/-- Ends all blocks before a directive or a mark between documents. -/
def leaveBlocks (l : Lexer) : Except Fault Lexer := do
  let l ← (l.unroll none).dropKey
  return { l with keyAllowed := false }

/-- Takes an opening bracket. -/
def takeOpening (l : Lexer) (kind : TokenKind) : Except Fault Lexer := do
  let l ← l.saveKey
  return { l.takeMark 1 kind with flowKeys := none :: l.flowKeys, keyAllowed := true }

/-- Takes a closing bracket. -/
def takeClosing (l : Lexer) (kind : TokenKind) : Except Fault Lexer := do
  let l ← l.dropKey
  return { l.takeMark 1 kind with flowKeys := l.flowKeys.drop 1, keyAllowed := false }

/-- Takes a comma. -/
def takeFlowEntry (l : Lexer) : Except Fault Lexer := do
  let l ← l.dropKey
  return { l.takeMark 1 .flowEntry with keyAllowed := true }

/-- The fault of an indicator where none may be. -/
def misplaced (l : Lexer) (problem : String) : Fault := ⟨problem, l.cursor.mark, none⟩

/-- Takes the hyphen of an entry. -/
def takeBlockEntry (l : Lexer) : Except Fault Lexer := do
  if !l.inFlow && !l.keyAllowed then
    throw (l.misplaced "block sequence entries are not allowed in this context")
  let mark := l.cursor.mark
  let l ← (l.openBlock mark.column none .blockSequenceStart mark).dropKey
  return { l.takeMark 1 .blockEntry with keyAllowed := true }

/-- Takes the question mark of a key. -/
def takeKey (l : Lexer) : Except Fault Lexer := do
  if !l.inFlow && !l.keyAllowed then
    throw (l.misplaced "mapping keys are not allowed in this context")
  let mark := l.cursor.mark
  let l ← (l.openBlock mark.column none .blockMappingStart mark).dropKey
  return { l.takeMark 1 .key with keyAllowed := !l.inFlow }

/-- Takes the colon of a value. A possible key in front of it has become one. -/
def takeValue (l : Lexer) : Except Fault Lexer :=
  match l.innerKey with
  | some key =>
    let l := l.addBefore key.number ⟨.key, key.mark, key.mark⟩
    let l := l.openBlock key.mark.column (some key.number) .blockMappingStart key.mark
    .ok ({ l.setInnerKey none with keyAllowed := false }.takeMark 1 .value)
  | none => do
    if !l.inFlow && !l.keyAllowed then
      throw (l.misplaced "mapping values are not allowed in this context")
    let mark := l.cursor.mark
    let l := l.openBlock mark.column none .blockMappingStart mark
    return { l.takeMark 1 .value with keyAllowed := !l.inFlow }

/-- Takes an anchor, an alias or a tag. -/
def takeProperty (l : Lexer) (reader : Cursor → Except Fault (Token × Cursor)) :
    Except Fault Lexer := do
  let l ← l.saveKey
  { l with keyAllowed := false }.takeBy reader

/-- Takes a block scalar. -/
def takeBlock (l : Lexer) (literal : Bool) : Except Fault Lexer := do
  let l ← l.dropKey
  let (text, cursor) ← readBlock literal l.indent l.cursor
  let kind := TokenKind.scalar (String.ofList text) (if literal then .literal else .folded)
  return { l.add ⟨kind, l.cursor.mark, cursor.mark⟩ with cursor := cursor, keyAllowed := true }

/-- Takes a scalar in quotes. -/
def takeQuoted (l : Lexer) (single : Bool) : Except Fault Lexer := do
  let l ← l.saveKey
  let start := l.cursor.mark
  let (text, cursor) ←
    readQuoted single start (l.cursor.rest.length + 1) [] (l.cursor.skip 1)
  let kind := TokenKind.scalar (String.ofList text) (if single then .single else .double)
  return { l.add ⟨kind, start, cursor.mark⟩ with cursor := cursor, keyAllowed := false }

/-- Takes a plain scalar. -/
def takePlain (l : Lexer) : Except Fault Lexer := do
  let l ← l.saveKey
  let start := l.cursor.mark
  let least := match l.indent with
    | some column => column + 1
    | none => 0
  let taken ←
    readPlain l.inFlow least start (2 * l.cursor.rest.length + 2) [] start .none l.cursor
  let token : Token := ⟨.scalar (String.ofList taken.text) .plain, start, taken.finish⟩
  return { l.add token with cursor := taken.cursor, keyAllowed := taken.fresh }

/-- Whether a plain scalar may begin with a text. -/
def beginsPlain (flow : Bool) : List Char → Bool
  | [] => false
  | c :: rest =>
    !atGap [c] && !"-?:,[]\x7b\x7d#&*!|>'\"%@\x60".toList.contains c
      || c = '-' && !rest.head?.any isBlank
      || !flow && (c = '?' || c = ':') && !atGap rest

/-- Takes the next token, and with it those that it brings about. -/
def fetch (l : Lexer) : Except Fault Lexer := do
  let l ← (skipGap (l.cursor.rest.length + 1) l).dropStaleKeys
  let l := l.unroll (some l.cursor.mark.column)
  let flow := l.inFlow
  match l.cursor.rest with
  | [] => l.takeEnd
  | c :: rest =>
    if l.cursor.mark.column = 0 ∧ c = '%' then (← l.leaveBlocks).takeBy readDirective
    else if l.cursor.atSeparator then
      return (← l.leaveBlocks).takeMark 3 (if c = '-' then .documentStart else .documentEnd)
    else if c = '[' then l.takeOpening .flowSequenceStart
    else if c = '{' then l.takeOpening .flowMappingStart
    else if c = ']' then l.takeClosing .flowSequenceEnd
    else if c = '}' then l.takeClosing .flowMappingEnd
    else if c = ',' then l.takeFlowEntry
    else if c = '-' ∧ atGap rest then l.takeBlockEntry
    else if c = '?' ∧ (flow ∨ atGap rest) then l.takeKey
    else if c = ':' ∧ (flow ∨ atGap rest) then l.takeValue
    else if c = '*' then l.takeProperty (readAnchor true)
    else if c = '&' then l.takeProperty (readAnchor false)
    else if c = '!' then l.takeProperty (readTag flow)
    else if c = '|' ∧ !flow then l.takeBlock true
    else if c = '>' ∧ !flow then l.takeBlock false
    else if c = '\'' then l.takeQuoted true
    else if c = '"' then l.takeQuoted false
    else if beginsPlain flow l.cursor.rest then l.takePlain
    else throw ⟨"found character that cannot start any token", l.cursor.mark,
      some ("while scanning for the next token", l.cursor.mark)⟩

/-- Whether the first token of the queue may still be preceded by the token of a key. -/
def waits (l : Lexer) : Bool :=
  (l.blockKey :: l.flowKeys).any fun key => key.any (·.number = l.given)

/-- The tokens of the rest of a text, and the fault that ends them early, if there is one. `fuel`
bounds the steps. -/
def run : Nat → Lexer → List Token × Option Fault
  | 0, _ => ([], none)
  | fuel + 1, l =>
    match l.queue with
    | [] =>
      if l.ended then ([], none)
      else
        match l.fetch with
        | .error fault => ([], some fault)
        | .ok l => run fuel l
    | token :: queue =>
      match l.dropStaleKeys with
      | .error fault => ([], some fault)
      | .ok l =>
        if l.waits then
          match l.fetch with
          | .error fault => ([], some fault)
          | .ok l => run fuel l
        else
          let (tokens, fault) := run fuel { l with queue := queue, given := l.given + 1 }
          (token :: tokens, fault)

end Lexer

/-- A character that a YAML text may hold. -/
def isAllowed (c : Char) : Bool :=
  c = '\t' || c = '\n' || c = '\r' || (' ' ≤ c && c ≤ '~') || c = '\x85'
    || ('\xA0' ≤ c && c ≤ '\uFFFD') || 0x10000 ≤ c.toNat

/-- The tokens of a text, and the fault that ends them early, if there is one. -/
def tokens (text : List Char) : List Token × Option Fault :=
  if text.all isAllowed then Lexer.run (6 * text.length + 16) (.start text)
  else
    let before := (text.takeWhile isAllowed).foldl (fun n c => n + c.utf8Size) 0
    ([], some ⟨"control characters are not allowed"
      ++ (if before = 0 then "" else " at position " ++ toString before), .origin, none⟩)

end CallbackWeave.Yaml

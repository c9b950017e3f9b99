import CallbackWeave.Editor.Program
import CallbackWeave.Regex.Reader

/-!
Programs of the editor as they are written. A program comes in pieces: arguments, and files. What is
told of a mistake names the piece and the place in it.
-/

namespace CallbackWeave.Editor

/-- Where a piece of a program comes from. -/
inductive Origin where
  | argument (number : Nat)
  | file (name : Octets)
deriving DecidableEq, Repr

/-- A piece of a program under way. -/
structure Source where
  origin : Origin
  whole : Octets
  rest : Octets
  /-- The pieces that follow. -/
  later : List (Origin × Octets)
  /-- Whether extended expressions are meant. -/
  extended : Bool

namespace Source

/-- How much of the piece has been read. -/
def used (s : Source) : Nat := s.whole.length - s.rest.length

/-- What is told of a mistake in a piece, after a number of characters. -/
def blame (origin : Origin) (used lines : Nat) (message : String) : String :=
  match origin with
  | .argument number =>
    "-e expression #" ++ toString number ++ ", char " ++ toString used ++ ": " ++ message
  | .file name => "file " ++ name.toText ++ " line " ++ toString lines ++ ": " ++ message

end Source

/-- Takes something off the front of a program. -/
abbrev Reader := StateT Source (Except String)

namespace Reader

/-- Ends with a mistake at the place that has been reached. -/
def fail (message : String) : Reader α := do
  let s ← get
  throw (Source.blame s.origin s.used ((s.whole.take s.used).count '\n' + 1) message)

/-- Takes a character. -/
def take : Reader (Option Char) := do
  let s ← get
  match s.rest with
  | [] => return none
  | c :: rest =>
    set { s with rest := rest }
    return some c

/-- Puts a character back. -/
def give (c : Option Char) : Reader Unit := modify fun s => { s with rest := c.toList ++ s.rest }

/-- Takes characters as long as they are of a kind. -/
def takeWhile (p : Char → Bool) : Reader Octets := do
  let s ← get
  let front := s.rest.takeWhile p
  set { s with rest := s.rest.drop front.length }
  return front

/-- A blank inside a line. -/
def isBlank (c : Char) : Bool := c = ' ' || c = '\t'

/-- A blank or the end of a line. -/
def isSpace (c : Char) : Bool := c = ' ' || '\t' ≤ c && c ≤ '\r'

/-- Takes the next character that is no blank. -/
def takeBehindBlanks : Reader (Option Char) := do
  let _ ← takeWhile isBlank
  take

/-- Takes a number. -/
def number : Reader Nat := do return Number.natOfDecimals (← takeWhile Char.isDigit)

/-- Takes what ends an instruction. -/
def endInstruction : Reader Unit := do
  match ← takeBehindBlanks with
  | none | some '\n' | some ';' => return
  | some c => if c = '}' || c = '#' then give (some c) else fail "extra characters after command"

/-- Takes a name up to a blank or the end of the instruction. -/
def label : Reader Octets := do
  let _ ← takeWhile isBlank
  takeWhile fun c => !isSpace c && c ≠ ';' && c ≠ '}'

/-- Takes the name of a file, which goes to the end of the line. -/
def fileName : Reader Octets := do
  let _ ← takeWhile isBlank
  let name ← takeWhile (· ≠ '\n')
  if name.isEmpty then fail "missing filename in r/R/w/W commands" else return name

end Reader

/-! ## Texts between marks -/

/-- What is read between marks. -/
inductive Kind where
  | regex
  | replacement
  | characters
deriving DecidableEq, Repr

/-- Where a text between marks stands. -/
inductive Nesting where
  | outside
  /-- In brackets, at their beginning. -/
  | beginning
  | brackets
  /-- In a class in brackets, up to a sign, and then in front of the bracket that ends it. -/
  | inner (sign : Char)
  | leaving
deriving DecidableEq, Repr

/-- The text up to a mark, and what follows the mark; nothing if the line ends before. What is left then
comes too. Marks in brackets of expressions do not count. -/
def delimited (mark : Char) (kind : Kind) : Nesting → Octets → Option Octets × Octets
  | _, [] => (none, [])
  | _, '\n' :: rest => (none, '\n' :: rest)
  | _, ['\\'] => if mark = '\\' then (some [], []) else (none, [])
  | nesting, '\\' :: c :: rest =>
    if mark = '\\' then (some [], c :: rest)
    else if nesting = .outside then
      let front : Octets := if c = 'n' && kind = .regex then ['\n']
        else if c = '\n' then ['\n']
        else if c = mark && !(c = '&' && kind ≠ .regex) then [c]
        else ['\\', c]
      let (text, left) := delimited mark kind nesting rest
      (text.map (front ++ ·), left)
    else if c = 'n' then
      let (text, left) := delimited mark kind .brackets rest
      (text.map ('\n' :: ·), left)
    else if c = ']' then
      let (text, left) := delimited mark kind .outside rest
      (text.map ('\\' :: ']' :: ·), left)
    else
      let (text, left) := delimited mark kind .brackets rest
      (text.map ('\\' :: c :: ·), left)
  | nesting, c :: rest =>
    if c = mark && nesting = .outside then (some [], rest)
    else
      let next : Nesting :=
        if kind ≠ .regex then .outside
        else
          let opened : Nesting := match c, rest with
            | '[', d :: _ => if ":.=".toList.contains d then .inner d else .brackets
            | _, _ => .brackets
          match nesting with
          | .outside => if c = '[' then .beginning else .outside
          | .beginning => if c = '^' then .beginning else opened
          | .brackets => if c = ']' then .outside else opened
          | .inner sign => if c = sign && rest.head? = some ']' then .leaving else nesting
          | .leaving => .brackets
      let (text, left) := delimited mark kind next rest
      (text.map (c :: ·), left)

/-- The characters of escapes of a single letter. -/
def letterEscapes : List (Char × Char) :=
  [('a', '\x07'), ('f', '\x0c'), ('r', '\r'), ('t', '\t'), ('v', '\x0b')]

/-- The bases of escapes of numbers, with the most digits that they have. -/
def numberEscapes : List (Char × Nat × Nat) := [('d', 10, 3), ('o', 8, 3), ('x', 16, 2)]

/-- What a backslash and the text behind it stand for, and the number of characters behind it that
belong to it. -/
def escape (kind : Kind) (text : Octets) : Octets × Nat :=
  match text with
  | [] => (['\\'], 0)
  | c :: rest =>
    match letterEscapes.lookup c, numberEscapes.lookup c, rest with
    | some d, _, _ => ([d], 1)
    | none, some (base, most), rest =>
      let digits := (rest.take most).takeWhile fun d => (Number.digitValue? base d).isSome
      match Number.natOfDigits? base digits with
      | some n =>
        let d := Char.ofNat (n % 256)
        let isSign := kind = .replacement && (d = '&' || d = '\\')
        (if isSign then ['\\', d] else [d], 1 + digits.length)
      | none => (['\\', c], 1)
    | none, none, d :: rest =>
      if c = 'c' then
        ([Char.ofNat (d.toUpper.toNat ^^^ 64)],
          if d = '\\' && rest.head? = some '\\' then 3 else 2)
      else (['\\', c], 1)
    | none, none, [] => (['\\', c], 1)

/-- A text with its escapes of characters replaced. `skip` is the number of characters that belong to
an escape before. -/
def unescaped (kind : Kind) : Nat → Octets → Octets
  | _, [] => []
  | skip + 1, _ :: rest => unescaped kind skip rest
  | 0, c :: rest =>
    if c = '\\' then
      let (front, skip) := escape kind rest
      front ++ unescaped kind skip rest
    else c :: unescaped kind 0 rest

namespace Reader

/-- Takes a text up to a mark. -/
def upTo (mark : Char) (kind : Kind) (message : String) : Reader Octets := do
  let s ← get
  let (text, rest) := if mark = '\n' then (none, s.rest.drop s.rest.length)
    else delimited mark kind .outside s.rest
  set { s with rest := rest }
  match text with
  | some text => return unescaped kind 0 text
  | none => fail message

/-- Takes the text that is added, changed or put in, of which nothing has been read. -/
def text (fuel : Nat) : Reader Octets := do
  match fuel with
  | 0 => return []
  | fuel + 1 =>
    match ← take with
    | none => return ['\n']
    | some '\n' => return ['\n']
    | some '\\' =>
      match ← take with
      | some c =>
        let rest ← text fuel
        return '\\' :: c :: rest
      | none =>
        let s ← get
        match s.later with
        | (origin, whole) :: later =>
          set { s with origin := origin, whole := whole, rest := whole, later := later }
          let rest ← text fuel
          return '\\' :: '\n' :: rest
        | [] => return ['\n']
    | some c =>
      let rest ← text fuel
      return c :: rest

/-- A text without the backslashes that escape its characters. -/
def withoutBackslashes : Octets → Octets
  | '\\' :: c :: rest => c :: withoutBackslashes rest
  | c :: rest => c :: withoutBackslashes rest
  | [] => []

/-- The most characters that the text of an instruction can have. -/
def textLimit : Reader Nat := do
  let s ← get
  return s.later.foldl (fun total part => total + part.2.length + 1) (s.rest.length + 1)

/-- Takes the text behind the letter of an instruction. -/
def instructionText : Reader Octets := do
  let limit ← textLimit
  let finish (text : Octets) : Octets := withoutBackslashes (newlines (unescaped .characters 0 text))
  match ← takeBehindBlanks with
  | none => fail "expected \\ after \x60a', \x60c' or \x60i'"
  | some '\\' =>
    let blanks ← takeWhile isBlank
    match ← take with
    | none =>
      let s ← get
      match s.later with
      | (origin, whole) :: later =>
        set { s with origin := origin, whole := whole, rest := whole, later := later }
        return finish (← text limit)
      | [] => return []
    | some '\n' => return finish (← text limit)
    | c =>
      give c
      return finish (blanks ++ (← text limit))
  | c =>
    give c
    return finish (← text limit)
where
  /-- A text with line feeds for the letter that stands for them. -/
  newlines : Octets → Octets
    | '\\' :: 'n' :: rest => '\n' :: newlines rest
    | '\\' :: c :: rest => '\\' :: c :: newlines rest
    | c :: rest => c :: newlines rest
    | [] => []

/-- What is looked for, from how it is written. -/
def target (text : Octets) (foldsCase hasLines : Bool) : Reader (Option Target) := do
  if text.isEmpty then
    if foldsCase || hasLines then fail "cannot specify modifiers on empty regexp" else return none
  else
    let extended := (← get).extended
    match Regex.read ⟨extended, false, false, true, extended⟩ text with
    | .ok regex => return some ⟨regex, foldsCase, hasLines⟩
    | .error fault => fail fault.message

/-! ## Addresses -/

/-- Takes the letters behind an expression that is an address: whether letter case and line ends count
differently. `fuel` bounds their number. -/
def addressFlags : Nat → Bool → Bool → Reader (Bool × Bool)
  | 0, foldsCase, hasLines => return (foldsCase, hasLines)
  | fuel + 1, foldsCase, hasLines => do
    match ← takeBehindBlanks with
    | some 'I' => addressFlags fuel true hasLines
    | some 'M' => addressFlags fuel foldsCase true
    | c => give c; return (foldsCase, hasLines)

/-- Takes an address whose first character has been taken; nothing if there is none. -/
def bound? (c : Option Char) : Reader (Option Bound) := do
  let fitting (mark : Option Char) : Reader (Option Bound) := do
    match mark with
    | none => fail "unterminated address regex"
    | some mark =>
      let text ← upTo mark .regex "unterminated address regex"
      let (foldsCase, hasLines) ← addressFlags (← get).rest.length false false
      return some (.address (.fits (← target text foldsCase hasLines)))
  match c with
  | some '/' => fitting c
  | some '\\' => fitting (← take)
  | some '$' => return some (.address .last)
  | some '+' =>
    give (← takeBehindBlanks)
    return some (.distance (← number))
  | some '~' =>
    give (← takeBehindBlanks)
    return some (.multiple (← number))
  | some c =>
    if c.isDigit then
      give (some c)
      let first ← number
      match ← takeBehindBlanks with
      | some '~' =>
        give (← takeBehindBlanks)
        let step ← number
        return some (.address (if step = 0 then .line first else .every first step))
      | c =>
        give c
        return some (.address (.line first))
    else return none
  | none => return none

/-- Takes the lines that are meant; the character behind them comes too. -/
def reach (c : Option Char) : Reader (Reach × Option Char) := do
  match ← bound? c with
  | none => return (.all, c)
  | some (.address first) =>
    let isZero := match first with
      | .line 0 => true
      | _ => false
    match ← takeBehindBlanks with
    | some ',' =>
      match ← bound? (← takeBehindBlanks) with
      | none => fail "unexpected \x60,'"
      | some last =>
        let next ← takeBehindBlanks
        match isZero, last with
        | false, _ | true, .address (.fits _) => return (.range first last, next)
        | _, _ => fail "invalid usage of line address 0"
    | next => if isZero then fail "invalid usage of line address 0" else return (.one first, next)
  | some _ => fail "invalid usage of +N or ~N as first address"

/-! ## Substitutions -/

/-- The parts of a replacement. -/
def parts : Octets → List Part
  | [] => []
  | '&' :: rest => .group 0 :: parts rest
  | '\\' :: c :: rest =>
    let part : Part := match c with
      | 'U' => .letters .upper
      | 'L' => .letters .lower
      | 'E' => .letters .kept
      | 'u' => .letter .upper
      | 'l' => .letter .lower
      | 'n' => .text ['\n']
      | c => if c.isDigit then .group (c.toNat - 48) else .text [c]
    part :: parts rest
  | c :: rest => .text [c] :: parts rest

/-- The letters behind a substitution. -/
structure Flags where
  foldsCase : Bool
  hasLines : Bool
  everywhere : Bool
  nth : Option Nat
  prints : Bool
  runs : Bool
  file : Option Octets

/-- Takes the letters behind a substitution. `fuel` bounds their number. -/
def flags : Nat → Flags → Reader Flags
  | 0, f => return f
  | fuel + 1, f => do
    match ← takeBehindBlanks with
    | some 'i' | some 'I' => flags fuel { f with foldsCase := true }
    | some 'm' | some 'M' => flags fuel { f with hasLines := true }
    | some 'e' => flags fuel { f with runs := true }
    | some 'p' =>
      if f.prints then fail "multiple \x60p' options to \x60s' command"
      else flags fuel { f with prints := true }
    | some 'g' =>
      if f.everywhere then fail "multiple \x60g' options to \x60s' command"
      else flags fuel { f with everywhere := true }
    | some 'w' => return { f with file := some (← fileName) }
    | none | some '\n' | some ';' => return f
    | some c =>
      if c = '}' || c = '#' then
        give (some c)
        return f
      else if c.isDigit then
        if f.nth.isSome then fail "multiple number options to \x60s' command"
        give (some c)
        let nth ← number
        if nth = 0 then fail "number option to \x60s' command may not be zero"
        flags fuel { f with nth := some nth }
      else fail "unknown option to \x60s'"

/-- Takes a substitution, of which its letter has been taken. -/
def substitution : Reader Substitution := do
  let message := "unterminated \x60s' command"
  match ← take with
  | none => fail message
  | some mark =>
    let looked ← upTo mark .regex message
    let written ← upTo mark .replacement message
    let f ← flags ((← get).rest.length + 1) ⟨false, false, false, none, false, false, none⟩
    let target ← target looked f.foldsCase f.hasLines
    let parts := parts written
    let highest := (parts.map fun
      | .group n => n
      | _ => 0).foldl max 0
    match target with
    | some t =>
      if highest > t.regex.groupCount then
        fail ("invalid reference \\" ++ toString highest ++ " on \x60s' command's RHS")
    | none => pure ()
    return ⟨target, parts, f.nth.getD 1, f.everywhere, f.prints, f.runs, f.file⟩

/-- The characters that a text of a translation lists. -/
def characters : Octets → Octets
  | '\\' :: 'n' :: rest => '\n' :: characters rest
  | '\\' :: c :: rest => c :: characters rest
  | c :: rest => c :: characters rest
  | [] => []

/-- Takes a translation, of which its letter has been taken. -/
def translation : Reader Action := do
  let message := "unterminated \x60y' command"
  match ← take with
  | none => fail message
  | some mark =>
    let source := characters (← upTo mark .characters message)
    let result := characters (← upTo mark .characters message)
    if source.length ≠ result.length then fail "strings for \x60y' command are different lengths"
    endInstruction
    return .translate (source.zip result)

/-! ## Instructions -/

/-- Takes a number behind the letter of an instruction, and what ends the instruction. -/
def numbered (f : Option Nat → Action) : Reader Action := do
  let _ ← takeWhile isBlank
  let digits ← takeWhile Char.isDigit
  endInstruction
  return f (Number.natOfDigits? 10 digits)

/-- The instructions that are a letter alone. -/
def letters : List (Char × Action) :=
  [('=', .showNumber), ('d', .delete), ('D', .deleteFirst), ('F', .showName), ('g', .get),
    ('G', .getMore), ('h', .hold), ('H', .holdMore), ('n', .next), ('N', .nextMore), ('p', .print),
    ('P', .printFirst), ('z', .clear), ('x', .exchange)]

/-- Takes what an instruction does. Its letter has been taken; `blocks` is the number of open blocks. -/
def action (reach : Reach) (blocks : Nat) (c : Option Char) : Reader Action := do
  let isBare := match reach with
    | .all => true
    | _ => false
  let ended (a : Action) : Reader Action := do
    endInstruction
    return a
  let isRange := match reach with
    | .range _ _ => true
    | _ => false
  match c with
  | none => fail "missing command"
  | some c =>
    match letters.lookup c, c with
    | some a, _ => ended a
    | none, '{' => return .openBlock
    | none, '}' =>
      if blocks = 0 then fail "unexpected \x60\x7d'"
      else if !isBare then fail "\x60\x7d' doesn't want any addresses"
      else ended .closeBlock
    | none, ':' =>
      if !isBare then fail ": doesn't want any addresses"
      let name ← label
      if name.isEmpty then fail "\":\" lacks a label"
      return .label name
    | none, 'a' => return .append (← instructionText)
    | none, 'i' => return .insert (← instructionText)
    | none, 'c' => return .change (← instructionText)
    | none, 'b' => return .jump .always (← label)
    | none, 't' => return .jump .ifReplaced (← label)
    | none, 'T' => return .jump .unlessReplaced (← label)
    | none, 'e' =>
      let _ ← takeWhile isBlank
      return .command (← takeWhile (· ≠ '\n'))
    | none, 'l' => numbered .showPlainly
    | none, 'q' =>
      if isRange then fail "command only uses one address"
      numbered fun n => .quit (n.getD 0)
    | none, 'Q' =>
      if isRange then fail "command only uses one address"
      numbered fun n => .quitSilently (n.getD 0)
    | none, 'r' => return .readFile (← fileName)
    | none, 'R' => return .readLine (← fileName)
    | none, 'w' => return .writeFile (← fileName)
    | none, 'W' => return .writeFirst (← fileName)
    | none, 's' => return .substitute (← substitution)
    | none, 'y' => translation
    | none, 'v' =>
      let _ ← label
      ended .nothing
    | none, c => fail ("unknown command: \x60" ++ String.singleton c ++ "'")

/-- Takes instructions up to the end of a piece and of those that continue it. The open blocks are
known by the origins of the pieces in which they begin. `fuel` bounds the instructions. -/
def instructions : Nat → List Origin → List Instruction → Reader (List Origin × List Instruction)
  | 0, blocks, done => return (blocks, done)
  | fuel + 1, blocks, done => do
    let _ ← takeWhile fun c => isSpace c || c = ';'
    match ← take with
    | none => return (blocks, done)
    | some '#' =>
      let _ ← takeWhile (· ≠ '\n')
      instructions fuel blocks done
    | c =>
      let (reach, next) ← reach c
      let (negated, next) ← do
        if next = some '!' then
          let next ← takeBehindBlanks
          if next = some '!' then fail "multiple \x60!'s" else pure (true, next)
        else pure (false, next)
      if next = some '#' then fail "comments don't accept any addresses"
      let action ← action reach blocks.length next
      let origin := (← get).origin
      let blocks := match action with
        | .openBlock => origin :: blocks
        | .closeBlock => blocks.drop 1
        | _ => blocks
      instructions fuel blocks (⟨reach, negated, action⟩ :: done)

end Reader

/-- Reads the pieces of a program; what has been read comes last instruction first. `fuel` bounds the
pieces. -/
def readPieces (extended : Bool) : Nat → List (Origin × Octets) → List Origin → List Instruction →
    Except String (List Origin × List Instruction)
  | 0, _, blocks, done => .ok (blocks, done)
  | _, [], blocks, done => .ok (blocks, done)
  | fuel + 1, (origin, text) :: later, blocks, done => do
    let bound := later.foldl (fun total part => total + part.2.length + 1) (text.length + 1)
    let ((blocks, done), s) ←
      (Reader.instructions bound blocks done).run ⟨origin, text, text, later, extended⟩
    readPieces extended fuel s.later blocks done

/-- A program, and whether its first line says that lines are printed only when asked for. -/
def readProgram (extended : Bool) (pieces : List (Origin × Octets)) :
    Except String (Program × Bool) := do
  let (blocks, done) ← readPieces extended pieces.length pieces [] []
  let silent := match pieces with
    | (_, '#' :: 'n' :: rest) :: _ => rest.isEmpty || rest.head? = some '\n'
    | _ => false
  match blocks with
  | origin :: _ => throw (Source.blame origin 0 0 "unmatched \x60\x7b'")
  | [] =>
    let program : Program := done.reverse.toArray
    match program.missingLabel? with
    | some name => throw ("can't find label for jump to \x60" ++ name.toText ++ "'")
    | none => return (program, silent)

end CallbackWeave.Editor

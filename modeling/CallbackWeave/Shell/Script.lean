import CallbackWeave.Shell.Word

/-!
Scripts as they are read. A script is read one line at a time, as it is run, so that what stands
before a mistake is done before the mistake is told.
-/

namespace CallbackWeave.Shell

open Reader

/-- The words that have a meaning of their own at the front of a command. -/
def reservedWords : List String :=
  ["if", "then", "else", "elif", "fi", "do", "done", "case", "esac", "while", "until", "for", "in",
    "\x7b", "\x7d", "!"]

/-- The reserved word at the front of a text. -/
def reservedAt (text : Octets) : Option String :=
  let word := String.ofList (text.takeWhile (!endsWord ·))
  if reservedWords.contains word then some word else none

/-- The operators, longer ones first. -/
def operators : List String := ["&&", "||", ";;", ";", "&", "|", "(", ")"]

/-- How the token at the front of a text is named. -/
def tokenName (text : Octets) : String :=
  match text with
  | [] => "end of file"
  | '\n' :: _ => "newline"
  | '<' :: _ | '>' :: _ => "redirection"
  | text =>
    match operators.find? (·.toList.isPrefixOf text), reservedAt text with
    | some operator, _ => "\"" ++ operator ++ "\""
    | none, some word => "\"" ++ word ++ "\""
    | none, none => "word"

/-- Gives up because of the token here. -/
def unexpected {α : Type} (expected : Option String) : Reader α := do
  let note := match expected with
    | some token => " (expecting \"" ++ token ++ "\")"
    | none => ""
  fault ("Syntax error: " ++ tokenName (← rest) ++ " unexpected" ++ note)

/-- The number of characters of blanks, joined lines and a comment at the front of a text. -/
def gapLength : Octets → Nat
  | ' ' :: rest | '\t' :: rest => gapLength rest + 1
  | '\\' :: '\n' :: rest => gapLength rest + 2
  | '#' :: rest => (rest.takeWhile (· ≠ '\n')).length + 1
  | _ => 0

/-- Goes over blanks. -/
def gap : Reader Unit := do skip (gapLength (← rest))

/-- Goes over blanks and line ends. `fuel` bounds the lines. -/
def newlinesWithin : Nat → Reader Unit
  | 0 => pure ()
  | fuel + 1 => do
    gap
    if ← takes "\n" then newlinesWithin fuel

/-- Goes over blanks and line ends. -/
def newlines : Reader Unit := do newlinesWithin ((← rest).length + 1)

/-- Goes over a reserved word, if it is the one that stands here. -/
def takesReserved (word : String) : Reader Bool := do
  if reservedAt (← rest) = some word then skip word.length; return true
  else return false

/-- Goes over a reserved word, which has to stand here or on a later line. -/
def expectReserved (word : String) : Reader Unit := do
  newlines
  if ← takesReserved word then return
  else unexpected (some word)

/-- Whether what a list of commands stands in ends here. -/
def endsList (text : Octets) : Bool :=
  text.isEmpty || text.head? == some ')' || ";;".toList.isPrefixOf text
    || (reservedAt text).any ["then", "else", "elif", "fi", "do", "done", "esac", "\x7d"].contains

/-! ## Redirections -/

/-- The number of characters up to the end of the line, where quoted line ends do not count. -/
def lineLength : Octets → Nat
  | [] => 0
  | '\n' :: _ => 0
  | '\\' :: _ :: rest => lineLength rest + 2
  | c :: rest =>
    if c = '\'' || c = '"' then
      let inside := (rest.takeWhile (· ≠ c)).length
      if inside < rest.length then lineLength (rest.drop (inside + 1)) + inside + 2
      else rest.length + 1
    else lineLength rest + 1
termination_by text => text.length
decreasing_by
  all_goals
    simp only [List.length_cons, List.length_drop]
    omega

/-- Cuts lines into those before the one that is the mark, and those after it. With `strips` the
tabs at the front of lines do not count. -/
def cutDocument (strips : Bool) (mark : Octets) : List Octets → List Octets × List Octets
  | [] => ([], [])
  | line :: rest =>
    let line := if strips then line.dropWhile (· = '\t') else line
    if Octets.chomp line = mark then ([], rest)
    else
      let (inside, after) := cutDocument strips mark rest
      (line :: inside, after)

/-- Takes a document out of the lines after this one. -/
def readDocument (commands : Reader Command) (number : Nat) (strips : Bool) : Reader Redirection := do
  gap
  let (mark, quoted) := delimiter (← readWord commands)
  let text ← rest
  let count := lineLength text
  let (inside, after) := cutDocument strips mark (Octets.lines (text.drop (count + 1)))
  let cursor ← get
  let parts ← if quoted then pure [Part.literal inside.flatten]
    else
      match readParts commands (inside.flatten.length + 2) .document
        ⟨inside.flatten, cursor.line + 1, 0, cursor.aliases⟩ with
      | .ok (parts, _) => pure parts
      | .error found => fault (Octets.toText found.message)
  set { cursor with
    rest := text.take (count + 1) ++ after.flatten, hidden := cursor.hidden + inside.length + 1 }
  return .mk number .document parts

/-- The redirections that are followed by a word, longer ones first: how each is written, the number
that it changes, and what it does. -/
def redirectionSigns : List (String × Nat × RedirectionKind) :=
  [("<&", 0, .duplicate), ("<>", 0, .both), ("<", 0, .read), (">>", 1, .append),
    (">&", 1, .duplicate), (">|", 1, .overwrite), (">", 1, .write)]

/-- Whether a redirection begins here. -/
def beginsRedirection : Octets → Bool
  | '<' :: _ | '>' :: _ => true
  | c :: '<' :: _ | c :: '>' :: _ => c.isDigit
  | _ => false

/-- Takes the redirection that begins here. -/
def readRedirection (commands : Reader Command) : Reader Redirection := do
  let number? ← match ← rest with
    | c :: _ =>
      if c.isDigit then skip 1; pure (some (c.toNat - 48)) else pure none
    | [] => pure none
  if ← takes "<<-" then readDocument commands (number?.getD 0) true
  else if ← takes "<<" then readDocument commands (number?.getD 0) false
  else
    let text ← rest
    match redirectionSigns.find? (·.1.toList.isPrefixOf text) with
    | none => unexpected none
    | some (sign, number, kind) =>
      skip sign.length
      gap
      let word ← readWord commands
      if word.isEmpty then unexpected none
      else return .mk (number?.getD number) kind word

/-- Takes the redirections here. `fuel` bounds their number. -/
def readRedirections (commands : Reader Command) : Nat → Reader (List Redirection)
  | 0 => pure []
  | fuel + 1 => do
    gap
    if beginsRedirection (← rest) then
      let first ← readRedirection commands
      return first :: (← readRedirections commands fuel)
    else return []

/-! ## Commands -/

/-- The name and the value of an assignment. -/
def assignment? : Word → Option (Octets × Word)
  | .plain text :: more =>
    match Octets.splitAt '=' text with
    | (name, some value) =>
      if isName name then some (name, if value.isEmpty then more else .plain value :: more)
      else none
    | _ => none
  | _ => none

/-- What a simple command is made of. -/
structure SimpleParts where
  assignments : List (Octets × Word)
  words : List Word
  redirections : List Redirection

/-- Puts the text of a name that stands for other text in the place of the name. A name is not replaced
again within its own text; `used` are those that have been replaced, and `fuel` bounds their number. The
result is how much of the script is left behind a text that ends in white space, which lets the word
there be replaced too. -/
def readAlias : Nat → List Octets → Reader (Option Nat)
  | 0, _ => return none
  | fuel + 1, used => do
    gap
    let text ← rest
    let name := text.takeWhile (!endsWord ·)
    match (← get).aliases.lookup name with
    | none => return none
    | some value =>
      if (reservedAt text).isSome || used.contains name then return none
      else
        let left := text.drop name.length
        modify fun c => { c with rest := value ++ left }
        let more ← if value.isEmpty then pure none else readAlias fuel (name :: used)
        let isOpen := value.getLast?.any fun c => c = ' ' || c = '\t'
        return if isOpen then some left.length else more

/-- Takes the rest of a simple command. The next word may stand for other text if no more than `mark` of
the script is left. `fuel` bounds the words. -/
def readSimple (commands : Reader Command) : Nat → Option Nat → SimpleParts → Reader SimpleParts
  | 0, _, s => pure s
  | fuel + 1, mark, s => do
    gap
    let mark ← if mark.any ((← rest).length ≤ ·) then readAlias (← get).aliases.length []
      else pure mark
    gap
    let text ← rest
    if beginsRedirection text then
      let r ← readRedirection commands
      let left := (← rest).length
      readSimple commands fuel (if s.words.isEmpty then some left else mark)
        { s with redirections := s.redirections ++ [r] }
    else if text.head?.all endsWord then return s
    else
      let word ← readWord commands
      match assignment? word with
      | some a =>
        if s.words.isEmpty then
          let left := (← rest).length
          readSimple commands fuel (some left) { s with assignments := s.assignments ++ [a] }
        else readSimple commands fuel mark { s with words := s.words ++ [word] }
      | none => readSimple commands fuel mark { s with words := s.words ++ [word] }

/-- A command with its redirections. -/
def Command.redirected (body : Command) (redirections : List Redirection) : Command :=
  if redirections.isEmpty then body else .redirect body redirections

/-- Takes the words of a loop over words. `fuel` bounds their number. -/
def readWords (commands : Reader Command) : Nat → Reader (List Word)
  | 0 => pure []
  | fuel + 1 => do
    gap
    if (← rest).head?.all endsWord then return []
    else
      let word ← readWord commands
      return word :: (← readWords commands fuel)

/-- Takes the patterns of a branch with the bracket behind them. `fuel` bounds their number. -/
def readPatterns (commands : Reader Command) : Nat → Reader (List Word)
  | 0 => pure []
  | fuel + 1 => do
    gap
    let word ← readWord commands
    if word.isEmpty then unexpected none
    gap
    if ← takes "|" then return word :: (← readPatterns commands fuel)
    else if ← takes ")" then return [word]
    else unexpected (some ")")

/-- Takes the branches of a choice among patterns, and the word that ends them. `fuel` bounds their
number. -/
def readBranches (commands : Reader Command) : Nat → Reader (List Branch)
  | 0 => pure []
  | fuel + 1 => do
    newlines
    if ← takesReserved "esac" then return []
    let _ ← takes "("
    let patterns ← readPatterns commands fuel
    let body ← commands
    newlines
    if ← takes ";;" then return .mk patterns body :: (← readBranches commands fuel)
    else if ← takesReserved "esac" then return [.mk patterns body]
    else unexpected (some ";;")

/-- Takes a list of commands in which there is at least one. -/
def readSome (commands : Reader Command) : Reader Command := do
  newlines
  if endsList (← rest) then unexpected none else commands

/-- Takes a choice after its first word. `fuel` bounds the conditions. -/
def readIf (commands : Reader Command) : Nat → Reader Command
  | 0 => unexpected none
  | fuel + 1 => do
    let condition ← readSome commands
    expectReserved "then"
    let yes ← readSome commands
    newlines
    if ← takesReserved "elif" then return .choose condition yes (← readIf commands fuel)
    else if ← takesReserved "else" then
      let no ← readSome commands
      expectReserved "fi"
      return .choose condition yes no
    else
      expectReserved "fi"
      return .choose condition yes (.sequence [])

/-- Takes the body of a loop with the words around it. -/
def readBody (commands : Reader Command) : Reader Command := do
  expectReserved "do"
  let body ← readSome commands
  expectReserved "done"
  return body

/-- Takes a loop over words after its first word. -/
def readFor (commands : Reader Command) : Reader Command := do
  gap
  match bareText? (← readWord commands) with
  | none => fault "Syntax error: Bad for loop variable"
  | some name =>
    if !isName name then fault "Syntax error: Bad for loop variable"
    newlines
    if ← takesReserved "in" then
      let words ← readWords commands ((← rest).length + 1)
      gap
      let _ ← takes ";"
      return .each name words (← readBody commands)
    else
      let _ ← takes ";"
      return .each name [[.parameter ['@'] .value [] true]] (← readBody commands)

/-- Takes a choice among patterns after its first word. -/
def readCase (commands : Reader Command) : Reader Command := do
  gap
  let subject ← readWord commands
  if subject.isEmpty then unexpected none
  expectReserved "in"
  return .matching subject (← readBranches commands ((← rest).length + 1))

/-- Takes a simple command, or the definition of a function. `compound` reads its body, and `mark`
is what is left behind a text that has taken the place of a name. -/
def readPlain (commands compound : Reader Command) (mark : Option Nat) : Reader Command := do
  let line := (← get).line
  let s ← readSimple commands ((← rest).length + 1) mark ⟨[], [], []⟩
  if (← sees "(") && s.words.length = 1 && s.assignments.isEmpty && s.redirections.isEmpty then
    skip 1
    gap
    if !(← takes ")") then unexpected (some ")")
    match (s.words.head?.bind bareText?) with
    | some name =>
      if !isName name then fault "Syntax error: Bad function name"
      newlines
      return .define name (← compound)
    | none => fault "Syntax error: Bad function name"
  else if s.words.isEmpty && s.assignments.isEmpty && s.redirections.isEmpty then unexpected none
  else return .simple line s.assignments s.words s.redirections

/-- Takes one command with its redirections. `fuel` bounds the definitions in front of it. -/
def readCommand (commands : Reader Command) : Nat → Reader Command
  | 0 => unexpected none
  | fuel + 1 => do
    let mark ← readAlias (← get).aliases.length []
    gap
    let compound (body : Command) : Reader Command := do
      return body.redirected (← readRedirections commands ((← rest).length + 1))
    if ← takes "(" then
      let body ← readSome commands
      newlines
      if ← takes ")" then compound (.subshell body) else unexpected (some ")")
    else
      match reservedAt (← rest) with
      | some "\x7b" =>
        skip 1
        let body ← readSome commands
        expectReserved "\x7d"
        compound body
      | some "if" => skip 2; compound (← readIf commands ((← rest).length + 1))
      | some "while" =>
        skip 5
        let condition ← readSome commands
        compound (.repeats false condition (← readBody commands))
      | some "until" =>
        skip 5
        let condition ← readSome commands
        compound (.repeats true condition (← readBody commands))
      | some "for" => skip 3; compound (← readFor commands)
      | some "case" => skip 4; compound (← readCase commands)
      | some _ => unexpected none
      | none => readPlain commands (readCommand commands fuel) mark

/-- Takes the commands that are joined to one by pipes. `fuel` bounds their number. -/
def readPipe (commands : Reader Command) : Nat → Reader (List Command)
  | 0 => pure []
  | fuel + 1 => do
    let first ← readCommand commands ((← rest).length + 1)
    gap
    if (← sees "|") && !(← sees "||") then
      skip 1
      newlines
      return first :: (← readPipe commands fuel)
    else return [first]

/-- Takes commands joined by pipes, which may be negated. -/
def readPipeline (commands : Reader Command) : Reader Command := do
  gap
  let negated ← takesReserved "!"
  let body ← match ← readPipe commands ((← rest).length + 1) with
    | [single] => pure single
    | several => pure (.pipe several)
  return if negated then .negate body else body

/-- Takes what is joined to a command by conditions. `fuel` bounds the commands. -/
def readMore (commands : Reader Command) : Nat → Command → Reader Command
  | 0, first => pure first
  | fuel + 1, first => do
    gap
    if ← takes "&&" then
      newlines
      readMore commands fuel (.both first (← readPipeline commands))
    else if ← takes "||" then
      newlines
      readMore commands fuel (.either first (← readPipeline commands))
    else return first

/-- Takes commands joined by conditions. -/
def readAndOr (commands : Reader Command) : Reader Command := do
  let first ← readPipeline commands
  readMore commands ((← rest).length + 1) first

/-- Takes commands up to the end of what they stand in. With `oneLine` the end of a line ends them
too. `fuel` bounds their number. -/
def readCommands (commands : Reader Command) (oneLine : Bool) : Nat → Reader (List Command)
  | 0 => pure []
  | fuel + 1 => do
    if oneLine then gap else newlines
    let text ← rest
    if endsList text || oneLine && text.head? = some '\n' then return []
    let first ← readAndOr commands
    gap
    if (← sees ";") && !(← sees ";;") then
      skip 1
      return first :: (← readCommands commands oneLine fuel)
    else if ← takes "&" then
      return .background first :: (← readCommands commands oneLine fuel)
    else if !oneLine && (← sees "\n") then return first :: (← readCommands commands oneLine fuel)
    else return [first]

/-- Takes the commands inside others. `depth` bounds how deep they stand in each other. -/
def readList : Nat → Reader Command
  | 0 => fault "Syntax error: commands too deep"
  | depth + 1 => do
    let commands ← readCommands (readList depth) false ((← rest).length + 1)
    return .sequence commands

/-- The bound on the depth of commands. -/
def depthLimit : Nat := 200

/-- Takes the commands of the next line that has any; there may be none left. -/
def readLine : Reader (Option Command) := do
  newlines
  if (← rest).isEmpty then return none
  let commands ← readCommands (readList depthLimit) true ((← rest).length + 1)
  gap
  if (← rest).isEmpty || (← takes "\n") then return some (.sequence commands)
  else unexpected none

end CallbackWeave.Shell

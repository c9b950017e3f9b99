import CallbackWeave.Preprocessor.Condition
import CallbackWeave.Preprocessor.Expansion

/-!
Directives: lines that define names, take in other files, or leave parts of a file out. Those for other
programs are printed.
-/

namespace CallbackWeave.Preprocessor

/-- Tokens as lines. -/
def linesOf : List Token → List (List Token)
  | [] => []
  | t :: rest =>
    match linesOf rest with
    | [] => [[t]]
    | line :: lines =>
      if line.head?.any (·.first) then [t] :: line :: lines else (t :: line) :: lines

namespace Guard

/-- The name of the directive that a line is. -/
def directive? : List Token → Option String
  | hash :: name :: _ => if hash.isHash then some (String.ofList name.text) else none
  | _ => none

/-- Whether some lines are those of one condition up to its end, with nothing behind it. `depth` counts
the conditions within it. -/
def closes : Nat → List (List Token) → Bool
  | _, [] => false
  | depth, line :: rest =>
    match directive? line with
    | some "endif" => if depth = 0 then rest.isEmpty else closes (depth - 1) rest
    | some name =>
      if depth = 0 && ["else", "elif", "elifdef", "elifndef"].contains name then false
      else closes (if ["if", "ifdef", "ifndef"].contains name then depth + 1 else depth) rest
    | none => closes depth rest

/-- The name that guards a file: all of the file is left out once the name is defined. -/
def ofTokens? (tokens : List Token) : Option Octets :=
  match linesOf tokens with
  | line :: rest =>
    let name? : Option Octets :=
      match directive? line, line.drop 2 with
      | some "ifndef", [t] => some t.text
      | some "if", [a, b, t] =>
        if a.isSign "!" && b.text = "defined".toList && t.kind = .name then some t.text else none
      | some "if", [a, b, l, t, r] =>
        if a.isSign "!" && b.text = "defined".toList && l.isSign "(" && r.isSign ")" then some t.text
        else none
      | _, _ => none
    if closes 0 rest then name? else none
  | [] => none

end Guard

namespace Act

/-- The directory of a file, with its separator. -/
def directoryOf (path : Octets) : Octets := (path.reverse.dropWhile (· ≠ '/')).reverse

/-- The paths that the name of a header may stand for, each with the marks of its file. -/
def candidates (name : Octets) (isQuoted : Bool) : Act (List (Octets × Octets)) := do
  let settings ← read
  let under (directory : Octets) : Octets := directory ++ '/' :: name
  let beside ← match ← frame? with
    | some f => pure [(directoryOf f.path ++ name, f.marks)]
    | none => pure []
  let usual := settings.directories.map fun (directory, marks) => (under directory, marks)
  let quoted := settings.quoteDirectories.map fun directory => (under directory, [])
  return if name.head? = some '/' then [(name, [])]
    else if isQuoted then beside ++ quoted ++ usual
    else usual

/-- Begins with a file. `line` is the line of the file outside that comes next. -/
def openFile (path marks content : Octets) (line : Nat) : Act Unit := do
  let tokens := Token.ofText content
  let f : Frame :=
    { tokens := tokens, path := path, name := path, shift := 0, marks := marks, branches := []
      guard := Guard.ofTokens? tokens, resume := line, returns := [] }
  modify fun s => { s with frames := f :: s.frames, opened := (path, marks) :: s.opened }

/-- Whether a file is not read again. -/
def isDone (path : Octets) : Act Bool := do
  let s ← get
  return s.once.contains path || s.guards.any fun (p, name) => p = path && (s.macros.lookup name).isSome

/-- Takes in the file of a header. What stands in no line is in line zero, and stays there. -/
def takeIn (name : Octets) (isQuoted onlyOnce : Bool) (skipped : Nat) (place : Place) : Act Unit := do
  let line ← lineOf place
  let content? := (← read).content?
  let found := (← candidates name isQuoted).filterMap fun (path, marks) =>
    (content? path).map fun content => (path, marks, content)
  match found.drop skipped with
  | [] =>
    tell "fatal error" (name.toText ++ ": No such file or directory") place
    modify fun s => { s with failed := true }
    throw ()
  | (path, marks, content) :: _ =>
    if ← isDone path then return
    if 200 ≤ (← get).frames.length then
      fail "#include nested depth 200 exceeds maximum of 200" place
    else
      if onlyOnce then modify fun s => { s with once := path :: s.once }
      if (← read).marked then let _ ← goToLine line
      openFile path marks content (if place.line = 0 then 0 else line + 1)
      if (← read).marked then markLine 1 " 1".toList

/-- The directives that take in files. -/
def runInclude (again : Act Token) (directive : String) (line : List Token) (place : Place) :
    Act Unit := do
  let isDirect := line.head?.any fun t => t.kind = .header || t.kind = .text
  let line ← if isDirect then pure line else within true line (rest again tokenLimit [])
  let onlyOnce := directive = "import"
  let skipped := if directive = "include_next" then 1 else 0
  match line.filter (!·.isPadding) with
  | t :: more =>
    if t.kind = .header then takeIn (t.text.drop 1).dropLast false onlyOnce skipped t.place
    else if t.kind = .text then takeIn (t.text.drop 1).dropLast true onlyOnce skipped t.place
    else
      let name := more.takeWhile (!·.isSign ">")
      if t.isSign "<" && name.length < more.length then
        takeIn (Token.spell name) false onlyOnce skipped t.place
      else fail ("#" ++ directive ++ " expects \"FILENAME\" or <FILENAME>") place
  | [] => fail ("#" ++ directive ++ " expects \"FILENAME\" or <FILENAME>") place

/-- The next token that is not padding. -/
def solid (again : Act Token) : Nat → Act Token
  | 0 => return Token.finish
  | fuel + 1 => do
    let t ← again
    if t.isPadding then solid again fuel else return t

/-- The tokens up to a closing parenthesis; none if there is no such parenthesis. -/
def closed? (again : Act Token) : Nat → List Token → Act (Option (List Token))
  | 0, _ => return none
  | fuel + 1, found => do
    let t ← solid again tokenLimit
    if t.kind = .finish then return none
    else if t.isSign ")" then return some found.reverse
    else closed? again fuel (t :: found)

/-- The answer to a question about a name or a header, which stands in parentheses. -/
def answer (again : Act Token) (question : Octets) : Act (Option Bool) := do
  if !(← solid again tokenLimit).isSign "(" then return none
  match ← closed? again tokenLimit [] with
  | none => return none
  | some tokens =>
    let name := Token.spell tokens
    if "__has_include".toList.isPrefixOf question then
      let content? := (← read).content?
      let isQuoted := tokens.head?.any (·.kind = .text)
      let found ← candidates (name.drop 1).dropLast isQuoted
      return some (found.any fun (path, _) => (content? path).isSome)
    else return some (question ≠ "__has_builtin".toList || "__builtin_".toList.isPrefixOf name)

/-- The tokens of a condition with its questions answered and its names replaced. -/
def conditionTokens (again : Act Token) : Nat → List Token → Act (Option (List Token))
  | 0, _ => return none
  | fuel + 1, found => do
    let t ← again
    let number (b : Bool) : Token :=
      { Token.ofKind .number (if b then ['1'] else ['0']) with place := t.place }
    if t.kind = .finish then return some found.reverse
    else if t.isPadding then conditionTokens again fuel found
    else if t.kind = .name && t.text = "defined".toList then
      modify fun s => { s with holds := true }
      let first ← solid again tokenLimit
      let isOpen := first.isSign "("
      let name ← if isOpen then solid again tokenLimit else pure first
      let isClosed ← if isOpen then do pure ((← solid again tokenLimit).isSign ")") else pure true
      modify fun s => { s with holds := false }
      if name.kind ≠ .name then
        fail "operator \"defined\" requires an identifier" t.place
        return none
      else if !isClosed then
        fail "missing ')' after \"defined\"" t.place
        return none
      else conditionTokens again fuel (number (← macro? name.text).isSome :: found)
    else if t.kind = .name && (Builtin.names.lookup (String.ofList t.text)) = some .question then
      match ← answer again t.text with
      | some b => conditionTokens again fuel (number b :: found)
      | none =>
        fail ("missing '(' before \"" ++ t.text.toText ++ "\" operand") t.place
        return none
    else conditionTokens again fuel (t :: found)

/-- Whether the condition of a directive holds. One that cannot be read does not. -/
def holdsIn (again : Act Token) (line : List Token) (place : Place) : Act Bool := do
  match ← within true line (conditionTokens again tokenLimit []) with
  | none => return false
  | some tokens =>
    match Condition.evaluate tokens with
    | .ok b => return b
    | .error message => fail message place; return false

/-- The name that stands first in a line. -/
def nameOf? (directive : String) (line : List Token) (place : Place) : Act (Option Octets) := do
  match line with
  | [] => fail ("no macro name given in #" ++ directive ++ " directive") place; return none
  | t :: _ =>
    if t.kind ≠ .name then fail "macro names must be identifiers" t.place; return none
    else if t.text = "defined".toList then
      fail "cannot use \"defined\" as a macro name" t.place
      return none
    else return some t.text

/-- Begins a condition. -/
def openBranch (holds : Bool) : Act Unit := do
  let outside := (← get).skipping
  let holds := holds && !outside
  changeFrame fun f => { f with branches := ⟨outside, outside || holds, false⟩ :: f.branches }
  modify fun s => { s with skipping := !holds }

/-- Whether the condition of a directive that begins or goes on with one holds. -/
def isMet (again : Act Token) (directive : String) (line : List Token) (place : Place) : Act Bool := do
  match directive with
  | "if" | "elif" => holdsIn again line place
  | _ =>
    match ← nameOf? directive line place with
    | none => return false
    | some name =>
      let isDefined := (← macro? name).isSome
      return if directive = "ifdef" || directive = "elifdef" then isDefined else !isDefined

/-- The directives of conditions. The result says whether this is one. -/
def runCondition (again : Act Token) (directive : String) (line : List Token) (place : Place) :
    Act Bool := do
  let branches := ((← frame?).map (·.branches)).getD []
  let replace (b : Branch) (rest : List Branch) (skipping : Bool) : Act Unit := do
    changeFrame fun f => { f with branches := b :: rest }
    modify fun s => { s with skipping := skipping }
  match directive, branches with
  | "if", _ | "ifdef", _ | "ifndef", _ =>
    if (← get).skipping then openBranch false else openBranch (← isMet again directive line place)
    return true
  | "elif", b :: rest | "elifdef", b :: rest | "elifndef", b :: rest =>
    if b.last then fail ("#" ++ directive ++ " after #else") place
    if b.taken then replace b rest true
    else
      modify fun s => { s with skipping := false }
      let holds ← isMet again directive line place
      replace { b with taken := holds } rest !holds
    return true
  | "else", b :: rest =>
    if b.last then fail "#else after #else" place
    replace { b with taken := true, last := true } rest b.taken
    return true
  | "endif", b :: rest =>
    changeFrame fun f => { f with branches := rest }
    modify fun s => { s with skipping := b.outside }
    return true
  | "elif", [] | "elifdef", [] | "elifndef", [] | "else", [] | "endif", [] =>
    fail ("#" ++ directive ++ " without #if") place
    return true
  | _, _ => return false

/-- Prints a line as it is. -/
def printLine (text : Octets) (place : Place) : Act Unit := do
  let _ ← goToLine (← lineOf place)
  write (text ++ ['\n'])
  changePrinter fun p => { p with printed := false, line := p.line + 1 }

/-- Gives the file under way another name and its next line another number. -/
def rename (name : Octets) (number : Nat) (marks : Octets) (place : Place) : Act Unit :=
  changeFrame fun f =>
    { f with name := name, shift := (number : Int) - ((place.line : Int) + 1), marks := marks }

/-- The number that a token writes in decimal digits. -/
def numberIn? (t : Token) : Option Nat :=
  if t.kind = .number then Number.natOfDigits? 10 t.text else none

/-- The name that a token in quotes writes. -/
def unquoted : Octets → Octets
  | [] => []
  | '\\' :: c :: rest => c :: unquoted rest
  | c :: rest => c :: unquoted rest

/-- The directive that gives a line a number. -/
def runLine (again : Act Token) (line : List Token) (place : Place) : Act Unit := do
  let f := ← frame?
  let found ← within true line (rest again tokenLimit [])
  let told := found.filter (!·.isPadding)
  match told, f with
  | t :: more, some f =>
    match numberIn? t, more with
    | some n, [] => rename f.name n f.marks place; markLine n []
    | some n, u :: _ =>
      if u.kind = .text then
        rename (unquoted (u.text.drop 1).dropLast) n f.marks place
        markLine n []
      else fail ("\"" ++ u.text.toText ++ "\" is not a valid filename") place
    | none, _ => fail ("\"" ++ t.text.toText ++ "\" after #line is not a positive integer") place
  | _, _ => fail "unexpected end of file after #line" place

/-- A line that tells where what follows comes from. -/
def runMark (line : List Token) (place : Place) : Act Unit := do
  match line, ← frame? with
  | t :: more, some f =>
    let n := (numberIn? t).getD 0
    let name := match more with
      | u :: _ => if u.kind = .text then unquoted (u.text.drop 1).dropLast else f.name
      | [] => f.name
    let flags := (more.drop 1).filterMap numberIn?
    let marks := if flags.contains 4 then " 3 4" else if flags.contains 3 then " 3" else ""
    let here ← lineOf place
    if flags.head? = some 1 then
      if (← read).marked then let _ ← goToLine here
      changeFrame fun f => { f with returns := (f.name, here + 1, f.marks) :: f.returns }
      rename name n marks.toList place
      markLine n " 1".toList
    else if flags.head? = some 2 then
      match f.returns with
      | (old, _, _) :: others =>
        if old = name || name.isEmpty then
          changeFrame fun f => { f with returns := others }
          rename old n marks.toList place
          markLine n " 2".toList
      | [] => tell "warning" "file linemarker ignored due to incorrect nesting" place
    else
      rename name n marks.toList place
      markLine n []
  | _, _ => return

/-- The directives for other programs that have a meaning here. The result says whether this is one. -/
def runOwn (line : List Token) : Act Bool := do
  let path := ((← frame?).map (·.path)).getD []
  let names := line.map fun t => String.ofList t.text
  let place := (line.head?.map (·.place)).getD ⟨0, 0⟩
  let name? (t : String) : Octets := (t.toList.drop 1).dropLast
  match names with
  | "once" :: _ =>
    if (← get).frames.length ≤ 1 then tell "warning" "#pragma once in main file" place
    modify fun s => { s with once := path :: s.once }
  | "push_macro" :: "(" :: name :: _ =>
    let value ← macro? (name? name)
    modify fun s => { s with saved := (name? name, value) :: s.saved }
  | "pop_macro" :: "(" :: name :: _ =>
    match (← get).saved.lookup (name? name) with
    | some value =>
      define (name? name) value
      modify fun s =>
        let before := s.saved.takeWhile (·.1 ≠ name? name)
        { s with saved := before ++ s.saved.drop (before.length + 1) }
    | none => pure ()
  | "GCC" :: "error" :: text =>
    let _ ← goTo place
    fail (" ".intercalate text) place
    return true
  | "GCC" :: kind :: _ =>
    if !(["poison", "system_header", "warning", "dependency"].contains kind) then return false
  | _ => return false
  let _ ← goTo place
  return true

/-- A directive for other programs. -/
def runPragma (line : List Token) (place : Place) : Act Unit := do
  if !(← runOwn line) then printLine ("#pragma ".toList ++ Token.spell line) place

/-- Replaces or defines a name. -/
def runDefine (line : List Token) (place : Place) : Act Unit := do
  match ← nameOf? "define" line place with
  | none => return
  | some name =>
    match Definition.read (line.drop 1) with
    | .ok d => define name (some (.defined d))
    | .error message => fail message place

/-- Carries out a directive. -/
def runNamed (again : Act Token) (name : Token) (line : List Token) (place : Place) : Act Unit := do
  let directive := String.ofList name.text
  if ← runCondition again directive line name.place then return
  if (← get).skipping then return
  let text : Octets := '#' :: Token.spell (name :: line)
  match directive with
  | "define" => runDefine line place
  | "undef" =>
    match ← nameOf? directive line place with
    | some old => define old none
    | none => return
  | "include" | "include_next" | "import" => runInclude again directive line name.place
  | "line" => runLine again line place
  | "error" => fail text.toText name.place
  | "warning" => tell "warning" (text.toText ++ " [-Wcpp]") name.place
  | "pragma" => runPragma line place
  | "ident" | "sccs" =>
    match line with
    | t :: _ => printLine ("#ident ".toList ++ t.text) place
    | [] => fail ("invalid #" ++ directive ++ " directive") name.place
  | "assert" | "unassert" => return
  | _ => fail ("invalid preprocessing directive " ++ text.toText) name.place

/-- Carries out a line that begins with the sign of directives. Names are replaced as if no arguments
were being read. -/
def runDirective (again : Act Token) (line : List Token) (place : Place) : Act Unit := do
  let s ← get
  set { s with stage := .outside, holds := false }
  match line with
  | [] => pure ()
  | t :: more =>
    if t.kind = .number then
      if s.skipping then pure () else runMark line place
    else if t.kind = .name then runNamed again t more place
    else if !s.skipping then fail ("invalid preprocessing directive #" ++ t.text.toText) t.place
  modify fun t => { t with stage := s.stage, holds := s.holds }

end Act

end CallbackWeave.Preprocessor

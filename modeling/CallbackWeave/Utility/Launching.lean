import CallbackWeave.Shell.Pattern
import CallbackWeave.Utility.Files

/-!
Programs that run others: with another environment, for words of the input, or for files that are found.
-/

namespace CallbackWeave.Utility

/-- Runs a program in the place of this one. The complaint about one that cannot be started comes with
a status for one that is not there and one for any other reason. -/
def replaceBy (launch : Launcher) (context : Context) (words : List Octets) : Task Ending := do
  let directories := (context.setting? "PATH").getD Context.usualDirectories
  match launch.orScript.named context directories words (← get) with
  | .ok (ending, h) => set h; return ending
  | .error cause =>
    Task.complain (quoted (words.headD []) ++ ": " ++ cause.plainMessage)
    return .exited (if cause = .noSuchEntry || cause = .notDirectory then 127 else 126)

/-! ## Environments -/

namespace Environment

def options : OptionTable :=
  ⟨"iu:0C:S:v",
    [("ignore-environment", 'i', .none), ("unset", 'u', .required), ("null", '0', .none),
      ("chdir", 'C', .required), ("split-string", 'S', .required), ("debug", 'v', .none)], false⟩

/-- An environment with another value for a variable. -/
def put (environment : List (Octets × Octets)) (name value : Octets) : List (Octets × Octets) :=
  if (environment.lookup name).isSome then
    environment.map fun (n, old) => if n = name then (n, value) else (n, old)
  else environment ++ [(name, value)]

/-- The words of a text between blanks. -/
def words (text : Octets) : List Octets :=
  (text.splitOnP fun c => c = ' ' || c = '\t' || c = '\n').filter (!·.isEmpty)

/-- The arguments with the words of a text that is to be taken apart. -/
def spread : List Octets → List Octets
  | ('-' :: 'S' :: text) :: rest =>
    if text.isEmpty then
      match rest with
      | text :: rest => words text ++ rest
      | [] => []
    else words text ++ rest
  | arguments => arguments

/-- Runs a program with another environment. -/
def run : Tool := fun launch arguments => do
  match options.read (spread arguments) with
  | .error message => return .exited (← misuse 125 message)
  | .ok p =>
    let c ← read
    let operands := if p.operands.head? = some ['-'] then p.operands.drop 1 else p.operands
    let clears := p.has 'i' || p.operands.head? = some ['-']
    let kept := if clears then [] else c.environment.filter fun (name, _) => !(p.values 'u').contains name
    let settings := operands.takeWhile (·.contains '=')
    let environment := settings.foldl (fun environment setting =>
      let (name, value) := Octets.splitAt '=' setting
      put environment name (value.getD [])) kept
    let command := operands.drop settings.length
    let context ← match p.value? 'C' with
      | none => pure (some c)
      | some directory =>
        match (c.files (← get)).locate .target directory.toPath with
        | .ok ⟨place, some .directory⟩ =>
          pure (some { c with site := { c.site with workingDirectory := place } })
        | .ok ⟨_, some _⟩ =>
          Task.complain ("cannot change directory to " ++ quoted directory ++ ": " ++ IoError.notDirectory.plainMessage)
          pure none
        | _ =>
          Task.complain ("cannot change directory to " ++ quoted directory ++ ": " ++ IoError.noSuchEntry.plainMessage)
          pure none
    match context with
    | none => return .exited 125
    | some context =>
      if command.isEmpty then
        let ending : Char := if p.has '0' then '\x00' else '\n'
        environment.forM fun (name, value) => Task.print (name ++ '=' :: value ++ [ending])
        return .exited 0
      else replaceBy launch { context with environment := environment } command

end Environment

/-- Runs the program that the operands name, which comes after a number of other operands. -/
def runBehind (table : OptionTable) (skipped failure : Nat) : Tool := fun launch arguments => do
  match table.read arguments with
  | .error message => return .exited (← misuse failure message)
  | .ok p =>
    match p.operands.drop skipped with
    | [] => return .exited (← misuse failure "missing operand")
    | words => replaceBy launch (← read) words

/-! ## Words of the input -/

namespace Arguments

def options : OptionTable :=
  ⟨"0a:d:E:I:i::L:l::n:oP:prs:tx",
    [("null", '0', .none), ("delimiter", 'd', .required), ("max-args", 'n', .required),
      ("replace", 'i', .optional), ("no-run-if-empty", 'r', .none), ("max-lines", 'L', .required),
      ("verbose", 't', .none), ("max-procs", 'P', .required), ("arg-file", 'a', .required)], false⟩

/-- The words of a text, which quotes and backslashes keep together. `word` holds the characters of the
word under way, last one first. -/
def split (quote : Option Char) (word : Option Octets) : Octets → Except String (List Octets)
  | [] =>
    match quote with
    | some c =>
      .error ("unmatched " ++ (if c = '"' then "double" else "single")
        ++ " quote; by default quotes are special to xargs unless you use the -0 option")
    | none => .ok (word.toList.map List.reverse)
  | '\\' :: c :: rest =>
    if quote.isNone then split none (some (c :: word.getD [])) rest
    else split quote (some ('\\' :: word.getD [])) (c :: rest)
  | c :: rest =>
    match quote with
    | some q =>
      if c = q then split none word rest
      else if c = '\n' then split quote word []
      else split quote (some (c :: word.getD [])) rest
    | none =>
      if c = '\'' || c = '"' then split (some c) (some (word.getD [])) rest
      else if c = ' ' || c = '\t' || c = '\n' then
        (split none none rest).map fun more => word.toList.map List.reverse ++ more
      else split none (some (c :: word.getD [])) rest
termination_by text => text.length

/-- A list in parts of a size. `fuel` bounds the parts. -/
def chunks (size : Nat) : Nat → List Octets → List (List Octets)
  | 0, _ => []
  | _, [] => []
  | fuel + 1, words => words.take size :: chunks size fuel (words.drop size)

/-- A text with another in the place of a part, wherever it stands. `fuel` bounds the places. -/
def replaced (part put : Octets) : Nat → Octets → Octets
  | 0, text => text
  | _, [] => []
  | fuel + 1, c :: rest =>
    if part.isPrefixOf (c :: rest) && !part.isEmpty then
      put ++ replaced part put fuel ((c :: rest).drop part.length)
    else c :: replaced part put fuel rest

/-- Runs commands one after the other. -/
def runAll (launch : Launcher) (verbose : Bool) : Nat → List (List Octets) → Task Nat
  | status, [] => pure status
  | status, command :: rest => do
    if verbose then Task.writeTo 2 ([' '].intercalate command ++ ['\n'])
    let nothing ← Task.addStream (.device .null)
    match ← Task.withStream 0 nothing (Task.spawn launch command) with
    | .error cause =>
      Task.complain ((command.headD []).toText ++ ": " ++ cause.plainMessage)
      return if cause = .noSuchEntry || cause = .notDirectory then 127 else 126
    | .ok (.killed signal) =>
      Task.complain ((command.headD []).toText ++ ": terminated by signal " ++ toString signal)
      return 125
    | .ok (.exited 255) =>
      Task.complain ((command.headD []).toText ++ ": exited with status 255; aborting")
      return 124
    | .ok (.exited n) => runAll launch verbose (if n = 0 then status else 123) rest

/-- Runs a program with the words of the input as arguments. -/
def run : Tool := fun launch arguments => do
  match options.read arguments with
  | .error message => return .exited (← misuse 1 message)
  | .ok p =>
    let text ← match p.value? 'a' with
      | some name => do pure ((← Task.contentOrComplaint name).getD [])
      | none => do pure ((← Task.readAll 0).toOption.getD [])
    let mark := match p.value? 'I', p.value? 'i' with
      | some mark, _ => some mark
      | none, some mark => some (if mark.isEmpty then "\x7b\x7d".toList else mark)
      | none, none => none
    let command := if p.operands.isEmpty then ["echo".toList] else p.operands
    let pieces (c : Char) : List Octets :=
      let parts := text.splitOn c
      if parts.getLast? = some [] then parts.dropLast else parts
    let words : Except String (List Octets) :=
      match p.has '0', p.value? 'd' with
      | true, _ => .ok (pieces '\x00')
      | false, some ('\\' :: c :: _) =>
        .ok (pieces (if c = 'n' then '\n' else if c = 't' then '\t' else if c = '0' then '\x00' else c))
      | false, some (c :: _) => .ok (pieces c)
      | false, _ =>
        if mark.isSome then
          .ok (((pieces '\n').map fun line => line.dropWhile fun c => c = ' ' || c = '\t').filter
            (!·.isEmpty))
        else split none none text
    match words with
    | .error message => Task.complain message; return .exited 1
    | .ok words =>
      let number (letter : Char) : Option Nat := (p.value? letter).bind (Number.natOfDigits? 10)
      let commands := match mark with
        | some mark => words.map fun word => command.map fun part => replaced mark word part.length part
        | none =>
          match number 'L', number 'n' with
          | some count, _ =>
            let lines := (bodiesOf text).map Environment.words |>.filter (!·.isEmpty)
            (groups count lines.length lines).map fun group => command ++ group
          | none, some count => (chunks (max count 1) words.length words).map (command ++ ·)
          | none, none => if words.isEmpty then [] else [command ++ words]
      let commands := if commands.isEmpty && !p.has 'r' && mark.isNone then [command] else commands
      return .exited (← runAll launch (p.has 't') 0 commands)
where
  bodiesOf (text : Octets) : List Octets := (Octets.lines text).map Octets.chomp
  groups (count : Nat) : Nat → List (List Octets) → List (List Octets)
    | 0, _ => []
    | _, [] => []
    | fuel + 1, lines => (lines.take (max count 1)).flatten :: groups count fuel (lines.drop (max count 1))

end Arguments

/-! ## Files that are found -/

namespace Find

/-- A condition on a file, or something that is done with it. -/
inductive Test where
  | always
  | never
  | name (pattern : Shell.Pattern) (foldsCase : Bool)
  | path (pattern : Shell.Pattern)
  | kind (letters : List Char)
  | empty
  | executable
  | size (sign : Char) (count unit : Nat)
  | print (ending : Char)
  | prune
  | delete
  | quit
  /-- Runs a program for each file, or one for all of them. -/
  | execute (words : List Octets) (together : Bool)
  | not (test : Test)
  | and (first second : Test)
  | or (first second : Test)
deriving Inhabited

/-- What is looked at, and what has been decided about it. -/
structure Visit where
  path : Octets
  place : Location
  entry : Entry
  pruned : Bool
  stopped : Bool
  /-- The files for which one program will be run together. -/
  gathered : List (List Octets × Octets)
  failed : Bool

/-- The limits of a search. -/
structure Limits where
  least : Nat
  most : Nat
  depthFirst : Bool
  follows : Bool

/-- The part of a test that is done with a file at the end. -/
def Test.acts : Test → Bool
  | print _ | delete | execute _ _ | quit => true
  | not t => t.acts
  | and a b | or a b => a.acts || b.acts
  | _ => false

/-- A pattern that a text writes. -/
def patternOf (text : Octets) : Shell.Pattern := Shell.Pattern.ofGlyphs (Shell.Glyph.ofText false text)

/-- Reads the limits out of arguments, and what is left. -/
def readLimits (l : Limits) : List Octets → Limits × List Octets
  | [] => (l, [])
  | word :: rest =>
    let number : Nat := ((rest.head?.bind (Number.natOfDigits? 10))).getD 0
    match String.ofList word, rest with
    | "-maxdepth", _ :: rest => readLimits { l with most := number } rest
    | "-mindepth", _ :: rest => readLimits { l with least := number } rest
    | "-depth", rest => readLimits { l with depthFirst := true } rest
    | _, rest =>
      let (l, rest) := readLimits l rest
      (l, word :: rest)

/-- Takes a single test. -/
def readTest (word : String) (rest : List Octets) : Except String (Test × List Octets) :=
  let one (make : Octets → Except String Test) : Except String (Test × List Octets) :=
    match rest with
    | value :: rest => (make value).map fun t => (t, rest)
    | [] => .error ("missing argument to \x60" ++ word ++ "'")
  match word with
  | "-name" => one fun v => .ok (.name (patternOf v) false)
  | "-iname" => one fun v => .ok (.name (patternOf (v.map Char.toLower)) true)
  | "-path" | "-wholename" => one fun v => .ok (.path (patternOf v))
  | "-type" => one fun v => .ok (.kind (v.filter (· ≠ ',')))
  | "-size" => one fun v =>
      let sign := if v.head? = some '+' || v.head? = some '-' then v.headD ' ' else ' '
      let text := if sign = ' ' then v else v.drop 1
      let digits := text.takeWhile Char.isDigit
      let unit := match text.drop digits.length with
        | ['c'] => 1
        | ['k'] => 1024
        | ['w'] => 2
        | _ => 512
      .ok (.size sign (Number.natOfDecimals digits) unit)
  | "-newer" | "-mtime" | "-perm" | "-user" | "-mmin" => one fun _ => .ok .never
  | "-empty" => .ok (.empty, rest)
  | "-executable" => .ok (.executable, rest)
  | "-print" => .ok (.print '\n', rest)
  | "-print0" => .ok (.print '\x00', rest)
  | "-prune" => .ok (.prune, rest)
  | "-delete" => .ok (.delete, rest)
  | "-quit" => .ok (.quit, rest)
  | "-true" => .ok (.always, rest)
  | "-false" => .ok (.never, rest)
  | "-exec" | "-execdir" =>
    let words := rest.takeWhile fun w => w ≠ [';'] && w ≠ ['+']
    match rest.drop words.length with
    | mark :: rest => .ok (.execute words (mark = ['+']), rest)
    | [] => .error ("missing argument to \x60" ++ word ++ "'")
  | _ =>
    if word.startsWith "-" then .error ("unknown predicate \x60" ++ word ++ "'")
    else .error ("paths must precede expression: \x60" ++ word ++ "'")

/-- Takes a test whose parts are joined at most as loosely as a level says: alternatives, conjunctions,
or single tests. `fuel` bounds the steps. -/
def readTests : Nat → Nat → List Octets → Except String (Test × List Octets)
  | 0, _, words => .ok (.always, words)
  | fuel + 1, 0, words => do
    let (first, rest) ← readTests fuel 1 words
    match rest with
    | mark :: more =>
      if mark = "-o".toList || mark = "-or".toList then
        let (second, rest) ← readTests fuel 0 more
        return (.or first second, rest)
      else return (first, rest)
    | [] => return (first, [])
  | fuel + 1, 1, words => do
    let (first, rest) ← readTests fuel 2 words
    match rest with
    | [] => return (first, [])
    | mark :: more =>
      if mark = "-o".toList || mark = "-or".toList || mark = [')'] then return (first, rest)
      else
        let rest := if mark = "-a".toList || mark = "-and".toList then more else rest
        let (second, rest) ← readTests fuel 1 rest
        return (.and first second, rest)
  | fuel + 1, _, words =>
    match words with
    | [] => .ok (.always, [])
    | word :: rest =>
      match String.ofList word with
      | "!" | "-not" => (readTests fuel 2 rest).map fun (t, rest) => (.not t, rest)
      | "(" => do
        let (t, rest) ← readTests fuel 0 rest
        match rest with
        | [')'] :: rest => return (t, rest)
        | _ => throw "invalid expression; I was expecting to find a ')' somewhere but did not see one."
      | text => readTest text rest

/-- Whether a test holds of a file; what it does is done on the way. -/
def check (launch : Launcher) : Test → StateT Visit Task Bool
  | .always => pure true
  | .never => pure false
  | .name pattern foldsCase => do
    let name := lastName (← get).path
    let name := if name.isEmpty then ['/'] else name
    return pattern.fits (if foldsCase then name.map Char.toLower else name)
  | .path pattern => do return pattern.fits (← get).path
  | .kind letters => do
    return match (← get).entry with
      | .directory => letters.contains 'd'
      | .file _ _ => letters.contains 'f'
      | .link _ => letters.contains 'l'
  | .empty => do
    let v ← get
    let h : Host ← MonadStateOf.get
    return match v.entry with
      | .directory => (h.tree.below v.place).isEmpty
      | .file content _ => content.isEmpty
      | .link _ => false
  | .executable => do
    return match (← get).entry with
      | .file _ executable => executable
      | _ => true
  | .size sign count unit => do
    let size := match (← get).entry with
      | .file content _ => (content.length + unit - 1) / unit
      | _ => 8
    return if sign = '+' then size > count else if sign = '-' then size < count else size = count
  | .print ending => do
    Task.print ((← get).path ++ [ending])
    return true
  | .prune => do
    modify fun v => { v with pruned := true }
    return true
  | .quit => do
    modify fun v => { v with stopped := true }
    return true
  | .delete => do
    let v ← get
    let h : Host ← MonadStateOf.get
    if v.entry = .directory && !(h.tree.below v.place).isEmpty then
      Task.complain ("cannot delete " ++ quoted v.path ++ ": " ++ (IoError.system 39).plainMessage)
      modify fun v => { v with failed := true }
      return false
    else
      setTree (h.tree.erase v.place)
      return true
  | .execute words together => do
    let v ← get
    if together then
      modify fun v => { v with gathered := v.gathered ++ [(words, v.path)] }
      return true
    else
      let command := words.map fun word =>
        Arguments.replaced "\x7b\x7d".toList v.path word.length word
      match ← Task.spawn launch command with
      | .ok ending => return ending = .exited 0
      | .error cause =>
        Task.complain (quoted (command.headD []) ++ ": " ++ cause.plainMessage)
        return false
  | .not t => do return !(← check launch t)
  | .and a b => do if ← check launch a then check launch b else return false
  | .or a b => do if ← check launch a then return true else check launch b

/-- Visits a file and those below it. `fuel` bounds the depth. -/
def visit (launch : Launcher) (l : Limits) (test : Test) : Nat → Nat → Octets → Location →
    StateT Visit Task Unit
  | 0, _, _, _ => pure ()
  | fuel + 1, depth, path, place => do
    let h : Host ← MonadStateOf.get
    match h.tree.get? place with
    | none => pure ()
    | some entry =>
      if (← get).stopped then return
      let look : StateT Visit Task Unit := do
        if l.least ≤ depth && !(← get).stopped then
          modify fun v => { v with path := path, place := place, entry := entry, pruned := false }
          let _ ← check launch test
      if !l.depthFirst then look
      let pruned := (← get).pruned && !l.depthFirst
      modify fun v => { v with pruned := false }
      if entry = .directory && depth < l.most && !pruned then
        for name in (h.tree.names place).mergeSort fun a b => (Octets.ofText a).precedes (Octets.ofText b) do
          visit launch l test fuel (depth + 1) (within path (Octets.ofText name)) (place ++ [name])
      if l.depthFirst then look

/-- Looks for files. -/
def run : Tool := fun launch arguments => do
  let arguments := arguments.filter fun a => a ≠ "-H".toList && a ≠ "-P".toList
  let follows := arguments.head? = some "-L".toList
  let arguments := if follows then arguments.drop 1 else arguments
  let isStart (word : Octets) : Bool :=
    word.head? ≠ some '-' && word ≠ ['!'] && word ≠ ['('] && word ≠ [')']
  let given := arguments.takeWhile isStart
  let (limits, words) := readLimits ⟨0, 64, false, follows⟩ (arguments.drop given.length)
  match readTests (4 * words.length + 8) 0 words with
  | .error message => Task.complain message; return .exited 1
  | .ok (test, rest) =>
    if let extra :: _ := rest then
      Task.complain ("paths must precede expression: \x60" ++ extra.toText ++ "'")
      return .exited 1
    let test := if test.acts then test else .and test (.print '\n')
    let limits := { limits with depthFirst := limits.depthFirst || words.contains "-delete".toList }
    let mut status := 0
    let mut gathered : List (List Octets × Octets) := []
    for start in if given.isEmpty then [['.']] else given do
      match ← spotOf start with
      | .ok ⟨place, some entry⟩ =>
        let first : Visit := ⟨start, place, entry, false, false, [], false⟩
        let (_, v) ← (visit launch limits test 64 0 start place).run first
        gathered := gathered ++ v.gathered
        if v.failed then status := 1
      | found =>
        let cause := match found with
          | .error cause => cause
          | .ok _ => .noSuchEntry
        Task.complain (quoted start ++ ": " ++ cause.plainMessage)
        status := 1
    let commands := (gathered.map Prod.fst).eraseDups
    for words in commands do
      let files := gathered.filterMap fun (w, path) => if w = words then some path else none
      match ← Task.spawn launch (words.filter (· ≠ "\x7b\x7d".toList) ++ files) with
      | .ok ending => if ending ≠ .exited 0 then status := 1
      | .error _ => status := 1
    return .exited status

end Find

end CallbackWeave.Utility

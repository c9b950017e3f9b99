import CallbackWeave.Awk.State
import CallbackWeave.Utility.Options

/-!
How programs that go through records are run. Expressions are evaluated and statements carried out with
fuel that bounds how deep they stand in each other; loops have a bound of their own.
-/

namespace CallbackWeave.Awk

open Utility

namespace Act

/-! ## Functions that need no definition -/

/-- A regular expression, from how it is written. -/
def regexOf (text : Octets) : Act Regex := do
  match Regex.read dialect text with
  | .ok r => return r
  | .error fault => stop ("regular expression compile failed (" ++ fault.message ++ ")\n" ++ text.toText)

/-- The place and the length of what is found in a text, counted from one. -/
def found (r : Regex) (text : Octets) : Option (Nat × Nat) :=
  (r.search (Subject.ofText text false) 0).map fun (i, f) => (i + 1, f.stop - i)

/-- The result of an operation. -/
def computed (operation : Arithmetic) (x y : Float) : Float :=
  match operation with
  | .add => x + y
  | .subtract => x - y
  | .multiply => x * y
  | .divide => x / y
  | .remainder => Number.remainder x y
  | .power => x.pow y

/-- Whether a comparison holds of an order. -/
def holds (comparison : Comparison) (order : Ordering) : Bool :=
  match comparison with
  | .less => order == .lt
  | .atMost => order != .gt
  | .equal => order == .eq
  | .unequal => order != .eq
  | .atLeast => order != .lt
  | .greater => order == .gt

/-- The text of a format with its directives carried out. What comes before a mistake is written if
`writes` says so. -/
def formattedText (word : String) (writes : Bool) (values : List Value) : Act Octets := do
  match values with
  | [] => fail ("not enough arguments passed to " ++ word)
  | first :: arguments =>
    let format ← textOf first
    let told := word ++ "(\"" ++ format.toText ++ "\")"
    let (text, fault) :=
      Value.formatted (← numberFormat) (format.length + 1) 0 format arguments
    if fault.isSome && writes then print text
    match fault with
    | none => return text
    | some .fewArguments => fail ("not enough arguments passed to " ++ told)
    | some (.badDirective n) =>
      fail ("improper conversion(number " ++ toString n ++ ") in " ++ told)

/-- A function of numbers. -/
def numberFunction? (name : String) : Option (Float → Float) :=
  match name with
  | "sin" => some Float.sin
  | "cos" => some Float.cos
  | "exp" => some Float.exp
  | "log" => some Float.log
  | "sqrt" => some Float.sqrt
  | "int" => some fun x =>
    match Number.truncated? x with
    | some n => Float.ofInt n
    | none => x
  | _ => none

/-- The value of a function of values. -/
def applied (name : String) (values : List Value) : Act Value := do
  match name, values with
  | "length", [] => return .ofNat (← textOf (← field 0)).length
  | "length", [v] => return .ofNat (← textOf v).length
  | "index", [v, part] =>
    let text ← textOf v
    let part ← textOf part
    let place := (List.range (text.length + 1)).find? fun i => part.isPrefixOf (text.drop i)
    return .ofNat ((place.map (· + 1)).getD 0)
  | "substr", [v, start] => return .text (substring (← textOf v) start.toNumber none)
  | "substr", [v, start, length] =>
    return .text (substring (← textOf v) start.toNumber (some length.toNumber))
  | "tolower", [v] => return .text ((← textOf v).map Char.toLower)
  | "toupper", [v] => return .text ((← textOf v).map Char.toUpper)
  | "sprintf", values => return .text (← formattedText "sprintf" false values)
  | "atan2", [y, x] => return .number (Float.atan2 y.toNumber x.toNumber)
  | "rand", [] => return .number 0.5
  | "srand", _ => return .number 0.0
  | "fflush", _ => flush; return .number 0.0
  | "close", [v] => close (← textOf v)
  | "system", [v] =>
    flush
    let launch := (← get).launch
    let command ← textOf v
    return statusOf (← (Task.runCommand launch command : Task Ending))
  | name, [v] =>
    match numberFunction? name with
    | some f => return .number (f v.toNumber)
    | none => fail ("wrong number of arguments in call to " ++ name)
  | name, _ => fail ("wrong number of arguments in call to " ++ name)

/-- Repeats something as long as it says so. -/
def iterate (act : Act Bool) : Nat → Act Unit
  | 0 => return
  | fuel + 1 => do if ← act then iterate act fuel

/-- The bound on the turns of a loop. -/
def turnLimit : Nat := 1000000

/-- Carries out the body of a loop; the result is whether the loop goes on. -/
def turn (body : Act Unit) : Act Bool := do
  try
    body
    return true
  catch
    | .turn => return true
    | .loop => return false
    | leave => throw leave

/-! ## Expressions and statements -/

mutual

/-- The value of an expression. -/
def eval : Nat → Expr → Act Value
  | 0, _ => fail "function call nesting too deep"
  | fuel + 1, e => do
    match e with
    | .number x => return .number x
    | .text t => return .text t
    | .regex t =>
      let text ← textOf (← field 0)
      return .ofBool (found (← regexOf t) text).isSome
    | .named n => valueOf n
    | .field index => field (← fieldNumber (← eval fuel index))
    | .element array index =>
      let key ← keyOf fuel index
      let id ← arrayOf array
      let t := (← table id).touch true key
      setTable id t
      return t.get key
    | .assign target operation value =>
      let v ← eval fuel value
      match operation with
      | none => assign fuel target v
      | some operation =>
        let old ← eval fuel target
        assign fuel target (.number (computed operation old.toNumber v.toNumber))
    | .choose condition yes no =>
      if (← eval fuel condition).isTrue then eval fuel yes else eval fuel no
    | .either first second =>
      if (← eval fuel first).isTrue then return .ofBool true
      else return .ofBool (← eval fuel second).isTrue
    | .both first second =>
      if (← eval fuel first).isTrue then return .ofBool (← eval fuel second).isTrue
      else return .ofBool false
    | .not e => return .ofBool !(← eval fuel e).isTrue
    | .isKey index array =>
      let key ← keyOf fuel index
      let id ← arrayOf array
      let t := (← table id).touch false key
      setTable id t
      return .ofBool (t.has key)
    | .fits e pattern =>
      let text ← textOf (← eval fuel e)
      return .ofBool (found (← patternOf fuel pattern) text).isSome
    | .compute operation first second =>
      let x ← eval fuel first
      let y ← eval fuel second
      return .number (computed operation x.toNumber y.toNumber)
    | .compare comparison first second =>
      let a ← eval fuel first
      let b ← eval fuel second
      return .ofBool (holds comparison (Value.order (← numberFormat) a b))
    | .join first second =>
      let a ← eval fuel first
      let b ← eval fuel second
      return .text ((← textOf a) ++ (← textOf b))
    | .negate e => return .number (-(← eval fuel e).toNumber)
    | .plain e => return .number (← eval fuel e).toNumber
    | .count target up after =>
      let old := (← eval fuel target).toNumber
      let new := if up then old + 1.0 else old - 1.0
      let _ ← assign fuel target (.number new)
      return .number (if after then old else new)
    | .call name arguments => callFunction fuel name arguments
    | .builtin name arguments => callBuiltin fuel (String.ofList name) arguments
    | .takeLine source from? target =>
      match source, from? with
      | .records, _ =>
        match ← nextRecord with
        | some line =>
          takeInto fuel target line
          return .number 1.0
        | none => return .number 0.0
      | source, some e =>
        let name ← textOf (← eval fuel e)
        match ← nextLine (source == .command) name with
        | (_, some line) =>
          takeInto fuel target line
          return .number 1.0
        | (true, none) => return .number 0.0
        | (false, none) => return .number (-1.0)
      | _, none => return .number (-1.0)
    | .group e => eval fuel e

/-- The key that stands for an element. -/
def keyOf : Nat → List Expr → Act Key
  | 0, _ => fail "function call nesting too deep"
  | fuel + 1, index => do
    let values ← index.mapM (eval fuel)
    match values with
    | [v] => return Key.ofValue (← numberFormat) v
    | values =>
      let texts ← values.mapM textOf
      return .text ((← settingText "SUBSEP").intercalate texts)

/-- The regular expression that an expression stands for. -/
def patternOf : Nat → Expr → Act Regex
  | 0, _ => fail "function call nesting too deep"
  | fuel + 1, e => do
    match e with
    | .regex t => regexOf t
    | .group (.regex t) => regexOf t
    | e => regexOf (← textOf (← eval fuel e))

/-- Assigns a value, which is the result. -/
def assign : Nat → Expr → Value → Act Value
  | 0, _, v => return v
  | fuel + 1, target, v => do
    match target with
    | .named n => setValue n v
    | .field index => setField (← fieldNumber (← eval fuel index)) v
    | .element array index =>
      let key ← keyOf fuel index
      let id ← arrayOf array
      setTable id (((← table id).touch true key).set key v)
    | .group e => let _ ← assign fuel e v
    | _ => pure ()
    return v

/-- Puts a line where it is asked for. -/
def takeInto : Nat → Option Expr → Octets → Act Unit
  | 0, _, _ => return
  | fuel + 1, target, line => do
    match target with
    | none => setRecord line
    | some target =>
      let _ ← assign fuel target (.ofInput line)

/-- Calls a function that the program defines. -/
def callFunction : Nat → Octets → List Expr → Act Value
  | 0, _, _ => fail "function call nesting too deep"
  | fuel + 1, name, arguments => do
    match (← get).functions.lookup name with
    | none => return .unset
    | some f =>
      let cells ← arguments.mapM fun e => do
        match e with
        | .named n =>
          match (cellOf (← get) n).2 with
          | .unset =>
            if n = "NF".toList then return .scalar (← valueOf n)
            else
              let id ← addTable .empty
              setCell n (.pending id)
              return Cell.pending id
          | .array id => return .array id
          | .pending id => return .pending id
          | .scalar v => return .scalar v
        | e => return .scalar (← eval fuel e)
      let frame := f.parameters.zipIdx.map fun (n, i) => (n, cells[i]?.getD .unset)
      modify fun s => { s with frames := frame :: s.frames }
      let value ← try
          execAll fuel f.body
          pure .unset
        catch
          | .answer v => pure v
          | leave => throw leave
      modify fun s => { s with frames := s.frames.drop 1 }
      return value

/-- Calls a function that needs no definition. -/
def callBuiltin : Nat → String → List Expr → Act Value
  | 0, _, _ => fail "function call nesting too deep"
  | fuel + 1, name, arguments => do
    match name, arguments with
    | "length", [.named n] =>
      match (cellOf (← get) n).2 with
      | .array id | .pending id => return .ofNat (← table id).values.length
      | _ => applied name [← valueOf n]
    | "match", [e, pattern] =>
      let text ← textOf (← eval fuel e)
      let place := found (← patternOf fuel pattern) text
      let start := Value.ofNat ((place.map Prod.fst).getD 0)
      setSetting "RSTART" start
      setSetting "RLENGTH" (match place with
        | some (_, length) => .ofNat length
        | none => .number (-1.0))
      return start
    | "split", e :: .named array :: rest =>
      let text ← textOf (← eval fuel e)
      let separator ← match rest with
        | [] => do separator (← settingText "FS")
        | .regex t :: _ => do pure (.regex (← regexOf t))
        | e :: _ => do separator (← textOf (← eval fuel e))
      let values := (separator.parts text).map Value.ofInput
      setTable (← arrayOf array) (Table.ofList values)
      return .ofNat values.length
    | "sub", pattern :: e :: rest => replace fuel false pattern e (rest.headD (.field (.number 0.0)))
    | "gsub", pattern :: e :: rest => replace fuel true pattern e (rest.headD (.field (.number 0.0)))
    | name, arguments => applied name (← arguments.mapM (eval fuel))

/-- Puts a replacement in the place of what is found, and gives the number of places. -/
def replace : Nat → Bool → Expr → Expr → Expr → Act Value
  | 0, _, _, _, _ => fail "function call nesting too deep"
  | fuel + 1, everywhere, pattern, e, target => do
    let r ← patternOf fuel pattern
    let put ← textOf (← eval fuel e)
    let text ← textOf (← eval fuel target)
    let write (what : Octets) : Octets := replacement what 0 put
    let (result, count) :=
      replacedFrom r (Subject.ofText text false) write everywhere (text.length + 2) 0 none
    if count > 0 then
      let _ ← assign fuel target (.text result)
    return .ofNat count

/-- Carries out a statement. -/
def exec : Nat → Statement → Act Unit
  | 0, _ => fail "function call nesting too deep"
  | fuel + 1, s => do
    match s with
    | .block body => execAll fuel body
    | .choose condition yes no =>
      if (← eval fuel condition).isTrue then exec fuel yes
      else
        match no with
        | some no => exec fuel no
        | none => return
    | .loop first condition next body =>
      match first with
      | some first => exec fuel first
      | none => pure ()
      let one : Act Bool := do
        let goesOn ← match condition with
          | some c => do pure (← eval fuel c).isTrue
          | none => pure true
        if !goesOn then return false
        else if ← turn (exec fuel body) then
          match next with
          | some next => exec fuel next
          | none => pure ()
          return true
        else return false
      iterate one turnLimit
    | .again body condition =>
      iterate (do
        if ← turn (exec fuel body) then return (← eval fuel condition).isTrue else return false)
        turnLimit
    | .eachKey name array body =>
      let id ← arrayOf array
      let t := (← table id).withTexts
      setTable id t
      keysLoop fuel name body t.keys
    | .leave => throw .loop
    | .goOn => throw .turn
    | .nextRecord => throw .record
    | .nextFile => throw .file
    | .exit status =>
      match status with
      | some e =>
        let n := Value.integerOf (← eval fuel e).toNumber
        modify fun s => { s with status := (n % 256).toNat }
      | none => pure ()
      throw .exit
    | .answer value =>
      match value with
      | some e => throw (.answer (← eval fuel e))
      | none => throw (.answer .unset)
    | .delete array index =>
      let id ← arrayOf array
      match index with
      | [] => setTable id .empty
      | index =>
        let key ← keyOf fuel index
        setTable id ((← table id).erase key)
    | .print formatted arguments sink =>
      let values ← arguments.mapM (eval fuel)
      let text ← if formatted then formattedText "printf" sink.isNone values
        else do
          let format := (← setting "OFMT").toText "%.6g".toList
          let record ← field 0
          let parts := (if values.isEmpty then [record] else values).map (Value.toText format)
          pure ((← settingText "OFS").intercalate parts ++ (← settingText "ORS"))
      let sink ← match sink with
        | some (sink, e) => do pure (some (sink, ← textOf (← eval fuel e)))
        | none => pure none
      write sink text
    | .run e =>
      let _ ← eval fuel e

/-- Carries out statements one after the other. -/
def execAll : Nat → List Statement → Act Unit
  | 0, _ => fail "function call nesting too deep"
  | _, [] => return
  | fuel + 1, s :: rest => do
    exec fuel s
    execAll fuel rest

/-- Carries out the body of a loop for each of some keys. -/
def keysLoop : Nat → Octets → Statement → List Octets → Act Unit
  | 0, _, _, _ => fail "function call nesting too deep"
  | fuel + 1, name, body, keys => do
    for key in keys do
      setValue name (.text key)
      if !(← turn (exec fuel body)) then break

end

/-! ## Programs -/

/-- The bound on how deep expressions and statements stand in each other. -/
def depthLimit : Nat := 3000

/-- Carries out a rule for the record. -/
def applyRule (number : Nat) (r : Rule) : Act Unit := do
  let act : Act Unit := do
    match r.action with
    | some body => execAll depthLimit body
    | none => exec depthLimit (.print false [] none)
  let isTrue (e : Expr) : Act Bool := do return (← eval depthLimit e).isTrue
  match r.moment with
  | .begin | .ending => return
  | .always => act
  | .at e => if ← isTrue e then act
  | .range first last =>
    let wasActive := (← get).active.contains number
    if wasActive || (← isTrue first) then
      let ends ← isTrue last
      modify fun s =>
        { s with active := if ends then s.active.filter (· ≠ number) else number :: s.active }
      act

/-- Goes through the records. -/
def eachRecord (rules : List (Rule × Nat)) : Act Bool := do
  match ← nextRecord with
  | none => return false
  | some text =>
    setRecord text
    try
      for (r, number) in rules do applyRule number r
    catch
      | .record => pure ()
      | .file => modify fun s => { s with rest := [], isOpen := false }
      | leave => throw leave
    return true

/-- Carries out the rules of a moment. -/
def atMoment (rules : List Rule) : Act Unit := do
  for r in rules do
    match r.action with
    | some body => execAll depthLimit body
    | none => pure ()

/-- Carries out something; the result is whether it went to its end. The exit counts as an end. -/
def upToExit (act : Act Unit) : Act Bool := do
  try
    act
    return true
  catch
    | .exit => return false
    | leave => throw leave

/-- Runs a program. -/
def runProgram (p : Program) : Act Unit := do
  let isBegin (r : Rule) : Bool := match r.moment with
    | .begin => true
    | _ => false
  let isEnd (r : Rule) : Bool := match r.moment with
    | .ending => true
    | _ => false
  let main := (p.rules.filter fun r => !isBegin r && !isEnd r).zipIdx
  let endings := p.rules.filter isEnd
  let goesOn ← upToExit (atMoment (p.rules.filter isBegin))
  if goesOn && !(main.isEmpty && endings.isEmpty) then
    let _ ← upToExit (iterate (eachRecord main) turnLimit)
  let _ ← upToExit (atMoment endings)

end Act

/-! ## The program -/

/-- The arguments of the command: separators, assignments, files with programs, and the rest. -/
structure Request where
  separator : Option Octets
  assignments : List (Octets × Octets)
  files : List Octets
  rest : List Octets

/-- Reads the arguments. `fuel` bounds them. -/
def Request.read : Nat → List Octets → Request → Except String Request
  | 0, _, r => .ok r
  | fuel + 1, arguments, r =>
    let valued (letter : Char) (value : Octets) (rest : List Octets) : Except String Request :=
      match letter with
      | 'F' => read fuel rest { r with separator := some (Token.unescaped 0 value) }
      | 'f' => read fuel rest { r with files := r.files ++ [value] }
      | 'v' =>
        match Act.assignment? value with
        | some a => read fuel rest { r with assignments := r.assignments ++ [a] }
        | none => .error ("improper assignment: -v " ++ value.toText)
      | _ => read fuel rest r
    match arguments with
    | ['-', '-'] :: rest => .ok { r with rest := rest }
    | ['-', letter] :: rest =>
      if !"FfvW".toList.contains letter then .error ("not an option: -" ++ String.singleton letter)
      else
        match rest with
        | value :: rest => valued letter value rest
        | [] => .error ("option -" ++ String.singleton letter ++ " lacks argument")
    | ('-' :: letter :: value) :: rest =>
      if !"FfvW".toList.contains letter then .error ("not an option: " ++ Octets.toText ('-' :: letter :: value))
      else valued letter value rest
    | rest => .ok { r with rest := rest }

/-- The variables that all functions share, as they are at the beginning. -/
def initialGlobals (c : Context) (r : Request) (operands : List Octets) : State → State := fun s =>
  let arguments := Table.ofList []
  let words := c.name :: operands
  let numbered := words.zipIdx.map fun (word, i) => (Octets.ofNat i, Value.ofInput word)
  let arguments := { arguments with
    values := numbered
    numbers := ((List.range words.length).map Int.ofNat).reverse }
  let environment : Table :=
    { Table.empty with
      values := c.environment.map fun (n, v) => (n, .ofInput v)
      texts := c.environment.map Prod.fst
      hasTexts := true }
  let settings : List (String × Value) :=
    [("FS", .text (r.separator.getD [' '])), ("OFS", .text [' ']), ("ORS", .text ['\n']),
      ("RS", .text ['\n']), ("SUBSEP", .text ['\x1c']), ("CONVFMT", .text "%.6g".toList),
      ("OFMT", .text "%.6g".toList), ("NR", .number 0.0), ("FNR", .number 0.0),
      ("FILENAME", .text []), ("RSTART", .number 0.0), ("RLENGTH", .number (-1.0)),
      ("ARGC", .ofNat words.length)]
  let cells := settings.map fun (n, v) => (n.toList, Cell.scalar v)
  { s with
    tables := #[arguments, environment]
    globals := ("ARGV".toList, .array 0) :: ("ENVIRON".toList, .array 1) :: cells }

/-- Runs a program with the arguments of the command. -/
def runText (launch : Launcher) (r : Request) (text : Octets) (operands : List Octets) : Task Nat := do
  match Program.read text with
  | .error message => Task.complain message; return 2
  | .ok p =>
    let start : State :=
      { functions := p.functions, globals := [], frames := [], tables := #[], record := .text []
        fields := [], rest := [], isOpen := false, argument := 1, hasFile := false, atEnd := false
        inputs := [], outputs := [], buffer := [], active := [], status := 0, launch := launch }
    let start := initialGlobals (← read) r operands start
    let act : Act Unit := do
      for (n, v) in r.assignments do Act.setValue n (.ofInput v)
      Act.runProgram p
    let (result, s) ← act.run.run start
    let told ← match result with
      | .error (.failed message) => do
        let number (name : String) : String :=
          match s.globals.lookup name.toList with
          | some (.scalar v) => (v.toText "%.6g".toList).toText
          | _ => ""
        Task.complain ("run time error: " ++ message ++ "\n\tFILENAME=\"" ++ number "FILENAME"
          ++ "\" FNR=" ++ number "FNR" ++ " NR=" ++ number "NR")
        pure true
      | .error .stopped => pure true
      | _ => pure false
    let finish : Act Unit := do
      Act.closeAll
      Act.flush
    let (_, s) ← finish.run.run s
    return if told then 2 else s.status

/-- A program that goes through records with rules. -/
def tool : Tool := fun launch arguments => do
  match Request.read (arguments.length + 1) arguments ⟨none, [], [], []⟩ with
  | .error message => Task.complain message; return .exited 2
  | .ok r =>
    match r.files, r.rest with
    | [], [] => return .exited 2
    | [], text :: operands => return .exited (← runText launch r text operands)
    | files, operands =>
      let mut texts : List Octets := []
      for name in files do
        match ← Task.content name with
        | .ok text => texts := texts ++ [text]
        | .error cause =>
          Task.complain ("cannot open \"" ++ name.toText ++ "\" (" ++ cause.plainMessage ++ ")")
          return .exited 2
      return .exited (← runText launch r (['\n'].intercalate texts) operands)

end CallbackWeave.Awk

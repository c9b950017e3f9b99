import CallbackWeave.Awk.Token

/-!
Programs from their tokens. Operations bind as follows, the weakest first: choices, disjunctions,
conjunctions, keys, matches, comparisons, juxtaposition, sums, products, signs, lines of commands,
powers, counting, and fields. A greater-than sign at the top of what is printed names a file.
-/

namespace CallbackWeave.Awk

/-- Takes something off the front of the tokens. -/
abbrev Reader := StateT (List (Token × Nat)) (Except String)

namespace Reader

/-- The next token. -/
def peek : Reader Token := do return ((← get).head?.map Prod.fst).getD .finish

/-- Goes over a token. -/
def skip : Reader Unit := modify (List.drop 1)

/-- Ends with a mistake at the next token. -/
def fail : Reader α := do
  let (token, line) := (← get).head?.getD (.finish, 1)
  throw ("line " ++ toString line ++ ": " ++ match token with
    | .finish => "missing \x7d near end of file"
    | token => "syntax error at or near " ++ token.shown)

/-- Goes over line ends. -/
def skipLines : Reader Unit :=
  modify (List.dropWhile fun
    | (.newline, _) => true
    | _ => false)

/-- Whether the next token is a sign. -/
def isSign (s : String) : Reader Bool := do
  match ← peek with
  | .sign t => return s = t
  | _ => return false

/-- Whether the next token is a word. -/
def isWord (w : String) : Reader Bool := do
  match ← peek with
  | .word t => return w = t
  | _ => return false

/-- Goes over a sign that has to be there. -/
def expect (s : String) : Reader Unit := do if ← isSign s then skip else fail

/-- Goes over a sign if it is there, and says whether it was. -/
def optional (s : String) : Reader Bool := do
  let found ← isSign s
  if found then skip
  return found

/-- Takes a name. -/
def name : Reader Octets := do
  match ← peek with
  | .name n => skip; return n
  | _ => fail

/-- The operations that can be joined with an assignment. -/
def assignments : List (String × Option Arithmetic) :=
  [("=", none), ("+=", some .add), ("-=", some .subtract), ("*=", some .multiply),
    ("/=", some .divide), ("%=", some .remainder), ("^=", some .power)]

/-- The comparisons by their signs. -/
def comparisons : List (String × Comparison) :=
  [("<", .less), ("<=", .atMost), ("==", .equal), ("!=", .unequal), (">=", .atLeast), (">", .greater)]

/-- Whether a token can begin an operand that is put behind another one. -/
def beginsOperand : Token → Bool
  | .number _ | .text _ | .regex _ | .name _ | .call _ | .builtin _ => true
  | .sign s => ["$", "(", "!", "++", "--"].contains s
  | .word w => w = "getline"
  | _ => false

/-- Takes operands that stand behind each other with one of some signs between them, first the leftmost
ones. `fuel` bounds their number. -/
def chain (operators : List (String × (Expr → Expr → Expr))) (operand : Reader Expr) :
    Nat → Expr → Reader Expr
  | 0, first => return first
  | fuel + 1, first => do
    match ← peek with
    | .sign s =>
      match operators.lookup s with
      | some make =>
        skip
        if s = "&&" || s = "||" then skipLines
        chain operators operand fuel (make first (← operand))
      | none => return first
    | _ => return first

/-- Whether the parentheses that begin here hold all that is printed. -/
def isPrintGroup (tokens : List (Token × Nat)) : Bool :=
  go 0 tokens
where
  /-- The same from inside some open parentheses. -/
  go : Nat → List (Token × Nat) → Bool
    | _, [] => false
    | depth, (.sign "(", _) :: rest => go (depth + 1) rest
    | depth, (.sign ")", _) :: rest =>
      if depth ≤ 1 then
        match rest.head?.map Prod.fst with
        | some (.sign s) => [";", "\x7d", ">", ">>", "|"].contains s
        | some .newline | some .finish | none => true
        | _ => false
      else go (depth - 1) rest
    | depth, _ :: rest => go depth rest

mutual

/-- Takes an expression. `bare` says that a greater-than sign does not belong to it. -/
def expr : Nat → Bool → Reader Expr
  | 0, _ => fail
  | fuel + 1, bare => do
    let condition ← disjunction fuel bare
    if ← isSign "?" then
      skip
      skipLines
      let yes ← expr fuel bare
      skipLines
      expect ":"
      skipLines
      let no ← expr fuel bare
      return .choose condition yes no
    else return condition

/-- Takes an expression without choices at its top. -/
def disjunction : Nat → Bool → Reader Expr
  | 0, _ => fail
  | fuel + 1, bare => do
    let operand := do chain [("&&", .both)] (keyed fuel bare) fuel (← keyed fuel bare)
    chain [("||", .either)] operand fuel (← operand)

/-- Takes an expression that may be looked for among the keys of an array. -/
def keyed : Nat → Bool → Reader Expr
  | 0, _ => fail
  | fuel + 1, bare => do
    let first ← matching fuel bare
    keys fuel first

/-- Takes the arrays in whose keys an expression is looked for. -/
def keys : Nat → Expr → Reader Expr
  | 0, e => return e
  | fuel + 1, e => do
    if ← isWord "in" then
      skip
      keys fuel (.isKey [e] (← name))
    else return e

/-- Takes an expression that may be matched. -/
def matching : Nat → Bool → Reader Expr
  | 0, _ => fail
  | fuel + 1, bare => do
    let operand := comparison fuel bare
    chain [("~", .fits), ("!~", fun a b => .not (.fits a b))] operand fuel (← operand)

/-- Takes an expression that may be compared. -/
def comparison : Nat → Bool → Reader Expr
  | 0, _ => fail
  | fuel + 1, bare => do
    let signs := if bare then comparisons.filter (·.1 ≠ ">") else comparisons
    let operand := joined fuel bare
    chain (signs.map fun (s, c) => (s, .compare c)) operand fuel (← operand)

/-- Takes operands that stand behind each other. -/
def joined : Nat → Bool → Reader Expr
  | 0, _ => fail
  | fuel + 1, bare => do
    let first ← sum fuel bare
    more fuel bare first

/-- Takes the operands behind another one. -/
def more : Nat → Bool → Expr → Reader Expr
  | 0, _, e => return e
  | fuel + 1, bare, e => do
    if beginsOperand (← peek) then more fuel bare (.join e (← sum fuel bare)) else return e

/-- Takes a sum. -/
def sum : Nat → Bool → Reader Expr
  | 0, _ => fail
  | fuel + 1, bare => do
    let operand := product fuel bare
    chain [("+", .compute .add), ("-", .compute .subtract)] operand fuel (← operand)

/-- Takes a product. -/
def product : Nat → Bool → Reader Expr
  | 0, _ => fail
  | fuel + 1, bare => do
    let operand := signed fuel bare
    chain [("*", .compute .multiply), ("/", .compute .divide), ("%", .compute .remainder)] operand fuel
      (← operand)

/-- Takes an operand with signs in front of it. -/
def signed : Nat → Bool → Reader Expr
  | 0, _ => fail
  | fuel + 1, bare => do
    if ← optional "!" then return .not (← signed fuel bare)
    else if ← optional "-" then return .negate (← signed fuel bare)
    else if ← optional "+" then return .plain (← signed fuel bare)
    else commanded fuel (← power fuel bare)

/-- Takes the reading of lines behind a command. -/
def commanded : Nat → Expr → Reader Expr
  | 0, e => return e
  | fuel + 1, e => do
    match (← get).take 2 with
    | [(.sign "|", _), (.word "getline", _)] =>
      skip
      skip
      let target ← target? fuel
      commanded fuel (.takeLine .command (some e) target)
    | _ => return e

/-- Takes a power. -/
def power : Nat → Bool → Reader Expr
  | 0, _ => fail
  | fuel + 1, bare => do
    let base ← counted fuel bare
    if ← optional "^" then return .compute .power base (← exponent fuel bare) else return base

/-- Takes what stands behind the sign of a power. -/
def exponent : Nat → Bool → Reader Expr
  | 0, _ => fail
  | fuel + 1, bare => do
    if ← optional "-" then return .negate (← exponent fuel bare)
    else if ← optional "+" then return .plain (← exponent fuel bare)
    else if ← optional "!" then return .not (← exponent fuel bare)
    else power fuel bare

/-- Takes an operand that may be counted or assigned to. -/
def counted : Nat → Bool → Reader Expr
  | 0, _ => fail
  | fuel + 1, bare => do
    let e ← operand fuel
    if !e.isTarget then return e
    else if ← optional "++" then return .count e true true
    else if ← optional "--" then return .count e false true
    else
      match ← peek with
      | .sign s =>
        match assignments.lookup s with
        | some operation =>
          skip
          skipLines
          return .assign e operation (← expr fuel bare)
        | none => return e
      | _ => return e

/-- Takes what can be assigned to, if it stands here. -/
def target? : Nat → Reader (Option Expr)
  | 0 => return none
  | fuel + 1 => do
    match ← peek with
    | .name _ | .sign "$" => return some (← operand fuel)
    | _ => return none

/-- Takes an operand. -/
def operand : Nat → Reader Expr
  | 0 => fail
  | fuel + 1 => do
    match ← peek with
    | .number x => skip; return .number x
    | .text t => skip; return .text t
    | .regex t => skip; return .regex t
    | .name n =>
      skip
      if ← optional "[" then
        let index ← exprs fuel false
        expect "]"
        return .element n index
      else return .named n
    | .call n =>
      skip
      return .call n (← arguments fuel)
    | .builtin n =>
      skip
      if ← isSign "(" then return .builtin n (← arguments fuel)
      else if n = "length".toList then return .builtin n []
      else fail
    | .word "getline" =>
      skip
      let target ← target? fuel
      if ← optional "<" then return .takeLine .file (some (← operand fuel)) target
      else return .takeLine .records none target
    | .sign "$" =>
      skip
      if ← optional "++" then return .field (.count (← operand fuel) true false)
      else if ← optional "--" then return .field (.count (← operand fuel) false false)
      else if ← optional "-" then return .field (.negate (← operand fuel))
      else return .field (← operand fuel)
    | .sign "++" => skip; return .count (← operand fuel) true false
    | .sign "--" => skip; return .count (← operand fuel) false false
    | .sign "-" => skip; return .negate (← operand fuel)
    | .sign "+" => skip; return .plain (← operand fuel)
    | .sign "!" => skip; return .not (← operand fuel)
    | .sign "(" =>
      skip
      let all ← exprs fuel false
      skipLines
      expect ")"
      match all with
      | [e] => return .group e
      | index =>
        if ← isWord "in" then
          skip
          return .isKey index (← name)
        else fail
    | _ => fail

/-- Takes expressions with commas between them. -/
def exprs : Nat → Bool → Reader (List Expr)
  | 0, _ => fail
  | fuel + 1, bare => do
    let first ← expr fuel bare
    if ← optional "," then
      skipLines
      return first :: (← exprs fuel bare)
    else return [first]

/-- Takes arguments in parentheses. -/
def arguments : Nat → Reader (List Expr)
  | 0 => fail
  | fuel + 1 => do
    expect "("
    skipLines
    if ← optional ")" then return []
    else
      let all ← exprs fuel false
      skipLines
      expect ")"
      return all

end

/-! ## Statements -/

/-- Goes over the end of a statement, which a brace may be too. -/
def endStatement : Reader Unit := do
  match ← peek with
  | .newline => skip
  | .sign ";" => skip
  | .sign "\x7d" | .finish => return
  | _ => fail

/-- Goes over line ends and semicolons. -/
def skipSeparators : Reader Unit :=
  modify (List.dropWhile fun
    | (.newline, _) | (.sign ";", _) => true
    | _ => false)

/-- Takes an expression if the statement does not end here. -/
def expr? (fuel : Nat) : Reader (Option Expr) := do
  match ← peek with
  | .newline | .sign ";" | .sign "\x7d" | .finish => return none
  | _ => return some (← expr fuel false)

/-- Takes a statement that prints; its word has been taken. -/
def printing (fuel : Nat) (formatted : Bool) : Reader Statement := do
  let arguments ← match ← peek with
    | .newline | .sign ";" | .sign "\x7d" | .finish | .sign ">" | .sign ">>" | .sign "|" => pure []
    | .sign "(" =>
      if isPrintGroup (← get) then
        skip
        let all ← exprs fuel false
        skipLines
        expect ")"
        pure all
      else exprs fuel true
    | _ => exprs fuel true
  let sink ← match ← peek with
    | .sign ">" => skip; pure (some (Sink.write, ← expr fuel true))
    | .sign ">>" => skip; pure (some (Sink.append, ← expr fuel true))
    | .sign "|" => skip; pure (some (Sink.command, ← expr fuel true))
    | _ => pure none
  return .print formatted arguments sink

/-- Takes a statement of the kind that may stand in the head of a loop. -/
def simple (fuel : Nat) : Reader Statement := do
  match ← peek with
  | .word "print" => skip; printing fuel false
  | .word "printf" => skip; printing fuel true
  | .word "delete" =>
    skip
    let array ← name
    if ← optional "[" then
      let index ← exprs fuel false
      expect "]"
      return .delete array index
    else return .delete array []
  | _ => return .run (← expr fuel false)

/-- Takes a simple statement unless a token stands here. -/
def simple? (fuel : Nat) (stop : String) : Reader (Option Statement) := do
  if ← isSign stop then return none else return some (← simple fuel)

mutual

/-- Takes a statement. -/
def statement : Nat → Reader Statement
  | 0 => fail
  | fuel + 1 => do
    let condition : Reader Expr := do
      expect "("
      let e ← expr fuel false
      skipLines
      expect ")"
      return e
    let body : Reader Statement := do
      skipLines
      if ← optional ";" then return .block [] else statement fuel
    let ended (s : Statement) : Reader Statement := do
      endStatement
      return s
    match ← peek with
    | .sign "\x7b" => block fuel
    | .sign ";" => skip; return .block []
    | .word "if" =>
      skip
      let c ← condition
      let yes ← body
      let before ← get
      skipSeparators
      if ← isWord "else" then
        skip
        return .choose c yes (some (← body))
      else
        set before
        return .choose c yes none
    | .word "while" =>
      skip
      let c ← condition
      return .loop none (some c) none (← body)
    | .word "do" =>
      skip
      let inner ← body
      skipSeparators
      if !(← isWord "while") then fail
      skip
      ended (.again inner (← condition))
    | .word "for" =>
      skip
      expect "("
      match (← get).take 4 with
      | [(.name k, _), (.word "in", _), (.name array, _), (.sign ")", _)] =>
        modify (List.drop 4)
        return .eachKey k array (← body)
      | _ =>
        let first ← simple? fuel ";"
        expect ";"
        skipLines
        let c ← if ← isSign ";" then pure none else do pure (some (← expr fuel false))
        expect ";"
        skipLines
        let next ← simple? fuel ")"
        expect ")"
        return .loop first c next (← body)
    | .word "break" => skip; ended .leave
    | .word "continue" => skip; ended .goOn
    | .word "next" => skip; ended .nextRecord
    | .word "nextfile" => skip; ended .nextFile
    | .word "exit" => skip; ended (.exit (← expr? fuel))
    | .word "return" => skip; ended (.answer (← expr? fuel))
    | _ => ended (← simple fuel)

/-- Takes statements in braces. -/
def block : Nat → Reader Statement
  | 0 => fail
  | fuel + 1 => do
    expect "\x7b"
    return .block (← statements fuel)

/-- Takes statements up to the brace that ends them. -/
def statements : Nat → Reader (List Statement)
  | 0 => fail
  | fuel + 1 => do
    skipSeparators
    if ← optional "\x7d" then return []
    else
      let first ← statement fuel
      return first :: (← statements fuel)

end

/-- The statements of a block. -/
def bodyOf : Statement → List Statement
  | .block body => body
  | s => [s]

/-- Takes the names of parameters. `fuel` bounds them. -/
def parameters : Nat → Reader (List Octets)
  | 0 => return []
  | fuel + 1 => do
    if ← optional ")" then return []
    else
      let first ← name
      skipLines
      if ← optional "," then
        skipLines
        return first :: (← parameters fuel)
      else
        expect ")"
        return [first]

/-- Takes the rules and functions of a program. `fuel` bounds them. -/
def items : Nat → Program → Reader Program
  | 0, p => return p
  | fuel + 1, p => do
    skipSeparators
    let depth := 20 * (← get).length + 80
    let ruled (moment : Moment) : Reader Program := do
      let action ← if ← isSign "\x7b" then do pure (some (bodyOf (← block depth))) else pure none
      items fuel { p with rules := ⟨moment, action⟩ :: p.rules }
    match ← peek with
    | .finish => return p
    | .word "BEGIN" => skip; ruled .begin
    | .word "END" => skip; ruled .ending
    | .word "function" =>
      skip
      let functionName ← match ← peek with
        | .name n | .call n => skip; pure n
        | _ => fail
      expect "("
      let names ← parameters depth
      skipLines
      let body ← block depth
      items fuel { p with functions := (functionName, ⟨names, bodyOf body⟩) :: p.functions }
    | .sign "\x7b" => ruled .always
    | _ =>
      let first ← expr depth false
      if ← optional "," then
        skipLines
        ruled (.range first (← expr depth false))
      else ruled (.at first)

end Reader

/-- Reads a program. -/
def Program.read (text : Octets) : Except String Program := do
  let tokens ← Token.ofText text
  let (p, _) ← (Reader.items (tokens.length + 1) ⟨[], []⟩).run tokens
  let undefined? := tokens.findSome? fun
    | (.call n, _) => if (p.functions.lookup n).isNone then some n else none
    | _ => none
  match undefined?, tokens.getLast? with
  | some n, some (_, line) =>
    throw ("line " ++ toString line ++ ": function " ++ n.toText ++ " never defined")
  | _, _ => return ⟨p.rules.reverse, p.functions.reverse⟩

end CallbackWeave.Awk

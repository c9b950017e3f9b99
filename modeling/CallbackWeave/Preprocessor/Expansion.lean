import CallbackWeave.Preprocessor.State

/-!
Replacing names. Arguments are replaced on their own before they take their places, unless they are quoted
or joined to a neighbour, and a name is not replaced again within what has taken its place. The steps are
given the step that takes the next token, `again`.
-/

namespace CallbackWeave.Preprocessor

/-- The bound on the tokens of one list. -/
def tokenLimit : Nat := Nat.pow 2 40

namespace Act

/-- Puts tokens before all that is left. -/
def push (name : Option Octets) (place : Option Place) (tokens : List Token) : Act Unit :=
  modify fun s =>
    { s with expansions := ⟨name, place, tokens⟩ :: s.expansions, busy := name.toList ++ s.busy }

/-- Puts a token back. -/
def putBack (t : Token) : Act Unit := do
  if t.kind = .finish then return
  modify fun s =>
    match s.expansions with
    | e :: rest => { s with expansions := { e with tokens := t :: e.tokens } :: rest }
    | [] => { s with frames := s.frames.modifyHead fun f => { f with tokens := t :: f.tokens } }

/-- All tokens up to the end. -/
def rest (again : Act Token) : Nat → List Token → Act (List Token)
  | 0, found => return found.reverse
  | fuel + 1, found => do
    let t ← again
    if t.kind = .finish then return found.reverse else rest again fuel (t :: found)

/-- Does something while only some tokens can be read. -/
def within (inDirective : Bool) (tokens : List Token) (act : Act α) : Act α := do
  let s ← get
  set { s with
    expansions := [⟨none, none, tokens⟩], closed := true, inDirective := s.inDirective || inDirective }
  let result ← act
  modify fun t =>
    { t with expansions := s.expansions, closed := s.closed, inDirective := s.inDirective }
  return result

/-- Tokens with all of their names replaced. -/
def replaced (again : Act Token) (tokens : List Token) : Act (List Token) :=
  within false tokens (rest again tokenLimit [])

/-- Looks for the parenthesis before arguments. If there is none, what was read is put back, with the
padding that was passed. -/
def opens (again : Act Token) : Nat → Option (Option Bool) → Act Bool
  | 0, _ => return false
  | fuel + 1, passed => do
    let t ← again
    match t.kind with
    | .padding source =>
      let better : Option (Option Bool) :=
        match passed with
        | none => some source
        | some old => if old.isNone || old = some false && source.isNone then some source else passed
      opens again fuel better
    | _ =>
      if t.isSign "(" then return true
      putBack t
      match passed with
      | some source =>
        if t.kind ≠ .finish || (← get).closed then push none none [Token.padding source]
      | none => pure ()
      return false

/-- Reads arguments up to the closing parenthesis. `depth` counts the open parentheses, `found` is the
argument so far and `done` are those before it, both in reverse. -/
def collect (again : Act Token) (arity : Nat) (variadic : Bool) :
    Nat → Nat → List Token → List (List Token) → Act (Option (List (List Token)))
  | 0, _, _, _ => return none
  | fuel + 1, depth, found, done => do
    let t ← again
    let argument := (found.dropWhile (·.isPadding)).reverse
    match t.kind with
    | .padding _ =>
      collect again arity variadic fuel depth (if found.isEmpty then [] else t :: found) done
    | .finish => return none
    | _ =>
      if t.isSign "(" then collect again arity variadic fuel (depth + 1) (t :: found) done
      else if t.isSign ")" then
        if depth = 0 then return some (argument :: done).reverse
        else collect again arity variadic fuel (depth - 1) (t :: found) done
      else if t.isSign "," && depth = 0 && !(variadic && done.length + 1 = arity) then
        collect again arity variadic fuel 0 [] (argument :: done)
      else collect again arity variadic fuel depth (t :: found) done

/-- The arguments behind a name, if there are any, and whether the last one has been left out. -/
def arguments? (again : Act Token) (t : Token) (arity : Nat) (variadic : Bool) :
    Act (Option (List (List Token) × Bool)) := do
  let name := t.text.toText
  modify fun s => { s with holds := true, stage := .opening }
  let isOpen ← opens again tokenLimit none
  let found ← if isOpen then do
      modify fun s => { s with stage := .collecting }
      collect again arity variadic tokenLimit 0 [] []
    else pure none
  modify fun s => { s with holds := false, stage := .outside }
  match isOpen, found with
  | false, _ => return none
  | true, none =>
    fail ("unterminated argument list invoking macro \"" ++ name ++ "\"") t.place
    return none
  | true, some found =>
    let isBlank := found.length = 1 && found.all List.isEmpty
    let found := if arity = 0 && isBlank then [] else found
    let count := found.length
    if count = arity then return some (found, variadic && isBlank)
    else if variadic && count + 1 = arity then return some (found ++ [[]], true)
    else if count < arity then
      fail ("macro \"" ++ name ++ "\" requires " ++ toString arity ++ " arguments, but only "
        ++ toString count ++ " given") t.place
      return none
    else
      fail ("macro \"" ++ name ++ "\" passed " ++ toString count ++ " arguments, but takes just "
        ++ toString arity) t.place
      return none

end Act

namespace Definition

/-- The text of an argument in quotes. White space between its tokens becomes a space. -/
def quoteFrom : Option Bool → Octets → List Token → Octets
  | _, found, [] => found
  | source, found, t :: rest =>
    match t.kind with
    | .padding new =>
      quoteFrom (if source.isNone || source = some false && new.isNone then new else source) found rest
    | _ =>
      let space : Octets := if !found.isEmpty && source.getD t.spaced then [' '] else []
      let text := if t.isQuoted then Token.escaped t.text else t.text
      quoteFrom none (found ++ space ++ text) rest

/-- An argument in quotes. A backslash that would escape the closing quote is left out. -/
def quoted (argument : List Token) : Token :=
  let solid := argument.filter (!·.isPadding)
  let slashes := (solid.reverse.takeWhile fun t => t.kind = .other && t.text.head? = some '\\').length
  let text := quoteFrom none [] argument
  let text := if slashes % 2 = 1 then text.dropLast else text
  Token.ofKind .text ('"' :: text ++ ['"'])

/-- What stands in the place of a name with arguments. `raw` are the arguments as they were written and
`full` those with their names replaced; `joined` says that the piece before is joined to this one, and
`out` is what has been found, in reverse. -/
def substitute (d : Definition) (bare left : Bool) (raw full : List (List Token)) :
    Bool → List Token → List Piece → List Token
  | _, out, [] => out.reverse
  | _, out, .token t :: rest => substitute d bare left raw full t.joins (t :: out) rest
  | joined, out, .parameter i isQuoted spaced joins :: rest =>
    let argument := raw[i]?.getD []
    let tokens :=
      if isQuoted then [quoted argument] else if joins || joined then argument
      else full[i]?.getD []
    let out :=
      match out with
      | [] => []
      | before :: others =>
        if isQuoted || joins || !joined then out
        else if before.isSign "," && d.variadic && d.arity = some (i + 1) then
          if left then others else { before with joins := false } :: others
        else if tokens.isEmpty then { before with joins := false } :: others
        else out
    let front := if bare || out.isEmpty || joined then [] else [Token.padding (some spaced)]
    let tokens :=
      if joins then tokens.reverse.modifyHead fun t => { t with joins := true } else tokens.reverse
    let back := if bare || joins then [] else [Token.padding none]
    substitute d bare left raw full joins (back ++ tokens ++ front ++ out) rest

/-- The name before a part of a body that stands there only if some arguments are left. -/
def optional : Octets := "__VA_OPT__".toList

/-- A body in which the parts that stand there only if some arguments are left have been decided on.
`depth` is one behind their name, and is larger within them. -/
def decided (keep : Bool) : Nat → List Piece → List Piece
  | _, [] => []
  | 0, p :: rest =>
    match p with
    | .token t =>
      if t.kind = .name && t.text = optional then
        .token (Token.padding (some t.spaced)) :: decided keep 1 rest
      else p :: decided keep 0 rest
    | _ => p :: decided keep 0 rest
  | 1, _ :: rest => decided keep 2 rest
  | depth + 2, p :: rest =>
    let here : List Piece := if keep then [p] else []
    match p with
    | .token t =>
      if t.isSign ")" && depth = 0 then
        let back := if !t.joins then [Piece.token (Token.padding none)] else []
        back ++ decided keep 0 rest
      else if t.isSign ")" then here ++ decided keep (depth + 1) rest
      else if t.isSign "(" then here ++ decided keep (depth + 3) rest
      else here ++ decided keep (depth + 2) rest
    | _ => here ++ decided keep (depth + 2) rest

/-- Whether a body has parts that stand there only if some arguments are left. -/
def hasOptional (d : Definition) : Bool :=
  d.variadic && d.body.any fun p =>
    match p with
    | .token t => t.kind = .name && t.text = optional
    | _ => false

/-- Whether an argument is needed with its names replaced. -/
def needs (i : Nat) : Bool → List Piece → Bool
  | _, [] => false
  | joined, p :: rest =>
    match p with
    | .parameter j isQuoted _ joins => j = i && !isQuoted && !joins && !joined || needs i joins rest
    | .token t => needs i t.joins rest

/-- The tokens of a body without parameters. -/
def plain (d : Definition) : List Token :=
  d.body.filterMap fun p =>
    match p with
    | .token t => some t
    | _ => none

end Definition

namespace Act

/-- The tokens that a name with arguments stands for. -/
def substituted (again : Act Token) (d : Definition) (arguments : List (List Token)) (left : Bool) :
    Act (List Token) := do
  let mut full : List (List Token) := []
  let last := arguments.length - 1
  for (argument, i) in arguments.zipIdx do
    if Definition.needs i false d.body || i = last && d.hasOptional then full := full ++ [← replaced again argument]
    else full := full ++ [[]]
  let keep := (full[last]?.getD []).any (!·.isPadding)
  let body := if d.hasOptional then Definition.decided keep 0 d.body else d.body
  return d.substitute (← get).inDirective left arguments full false [] body

/-- Joins a token to those that follow in what has taken the place of a name. -/
def join : Nat → Token → Act Token
  | 0, left => return left
  | fuel + 1, left => do
    let s ← get
    match s.expansions with
    | { name := name, place := place, tokens := right :: more } :: outer =>
      set { s with expansions := ⟨name, place, more⟩ :: outer }
      if right.isPadding then join fuel left
      else
        match Token.ofPiece (left.text ++ right.text) with
        | [t] =>
          let t := { t with spaced := left.spaced, place := left.place }
          if right.joins then join fuel t else return t
        | _ =>
          fail ("pasting \"" ++ left.text.toText ++ "\" and \"" ++ right.text.toText
            ++ "\" does not give a valid preprocessing token") left.place
          putBack right
          return { left with joins := false }
    | _ => return { left with joins := false }

/-- The token that a name stands for whose meaning changes from place to place. -/
def builtin (b : Builtin) (t : Token) : Act Token := do
  let s ← get
  let number (n : Nat) : Token := Token.ofKind .number (Octets.ofNat n)
  let text (value : Octets) : Token := Token.ofKind .text ('"' :: Token.escaped value ++ ['"'])
  match b with
  | .line => return number (← lineOf t.place)
  | .file => return text ((← frame?).map (·.name) |>.getD [])
  | .baseFile => return text (← read).base
  | .counter => set { s with counter := s.counter + 1 }; return number s.counter
  | .depth => return number (s.frames.length - 1)
  | .date => return text "Jan  1 2024".toList
  | .time => return text "00:00:00".toList
  | .pragma | .question => return t

/-- Puts what a name stands for in its place. The result says whether the name has been replaced. -/
def enter (again : Act Token) (m : Macro) (t : Token) : Act Bool := do
  match m with
  | .builtin .pragma => return false
  | .builtin .question =>
    if (← get).inDirective then return false
    fail ("\"" ++ t.text.toText ++ "\" used outside of preprocessing directive") t.place
    push none (some t.place) [Token.ofKind .number ['0']]
    return true
  | .builtin b =>
    let found ← builtin b t
    push none (some t.place) [found]
    return true
  | .defined d =>
    match d.arity with
    | none =>
      push (some t.text) (some t.place) d.plain
      return true
    | some arity =>
      match ← arguments? again t arity d.variadic with
      | none => return false
      | some (arguments, left) =>
        let tokens ← substituted again d arguments left
        push (some t.text) (some t.place) tokens
        return true

end Act

end CallbackWeave.Preprocessor

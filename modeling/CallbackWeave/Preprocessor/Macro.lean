import CallbackWeave.Preprocessor.Token

/-!
Names that are replaced. A definition has a body of pieces, some of which stand for its arguments.
-/

namespace CallbackWeave.Preprocessor

/-- A piece of the body of a definition. -/
inductive Piece where
  | token (t : Token)
  /-- Stands for an argument, which is written in quotes if it is to be quoted. -/
  | parameter (index : Nat) (quoted spaced joins : Bool)
deriving Repr, Inhabited

namespace Piece

/-- Whether a piece is joined to the one behind it. -/
def joins : Piece → Bool
  | token t => t.joins
  | parameter _ _ _ joins => joins

/-- The same piece, joined to the one behind it. -/
def joined : Piece → Piece
  | token t => token { t with joins := true }
  | parameter index quoted spaced _ => parameter index quoted spaced true

/-- The same piece without white space before it. -/
def close : Piece → Piece
  | token t => token { t with spaced := false }
  | parameter index quoted _ joins => parameter index quoted false joins

end Piece

/-- What a name stands for. -/
structure Definition where
  /-- How many arguments there are, if the name is followed by arguments. -/
  arity : Option Nat
  /-- Whether the last argument takes all that are left. -/
  variadic : Bool
  body : List Piece
deriving Repr, Inhabited

/-- The names whose meaning changes from place to place. -/
inductive Builtin where
  | line
  | file
  | baseFile
  | counter
  | depth
  | date
  | time
  /-- The name that stands for a directive for other programs. -/
  | pragma
  /-- A name with arguments that has a meaning in conditions only. -/
  | question
deriving DecidableEq, Repr, Inhabited

namespace Builtin

/-- The names of these kinds. -/
def names : List (String × Builtin) :=
  [("__LINE__", line), ("__FILE__", file), ("__BASE_FILE__", baseFile), ("__COUNTER__", counter),
    ("__INCLUDE_LEVEL__", depth), ("__DATE__", date), ("__TIME__", time), ("_Pragma", pragma),
    ("__has_include", question), ("__has_include_next", question), ("__has_attribute", question),
    ("__has_cpp_attribute", question), ("__has_builtin", question)]

end Builtin

/-- A name that is replaced. -/
inductive Macro where
  | builtin (b : Builtin)
  | defined (d : Definition)
deriving Repr, Inhabited

namespace Definition

/-- The name of the arguments that are left when they have no name of their own. -/
def usualRest : Octets := "__VA_ARGS__".toList

/-- Reads the names of parameters up to the closing parenthesis. The result says whether the last one
takes all arguments that are left, and comes with the tokens behind the parenthesis. -/
def parameters : List Octets → List Token → Except String (List Octets × Bool × List Token)
  | names, t :: rest =>
    let isNext (sign : String) : Bool := rest.head?.any (·.isSign sign)
    if t.isSign ")" && names.isEmpty then .ok ([], false, rest)
    else if t.isSign "..." then
      if isNext ")" then .ok ((usualRest :: names).reverse, true, rest.drop 1)
      else .error "expected ')' after \"...\""
    else if t.kind = .name then
      if names.contains t.text then .error ("duplicate macro parameter \"" ++ t.text.toText ++ "\"")
      else
        match rest with
        | u :: rest =>
          if u.isSign "," then parameters (t.text :: names) rest
          else if u.isSign ")" then .ok ((t.text :: names).reverse, false, rest)
          else if u.isSign "..." && rest.head?.any (·.isSign ")") then
            .ok ((t.text :: names).reverse, true, rest.drop 1)
          else .error "expected ',' or ')'"
        | [] => .error "expected ')' before end of line"
    else .error ("expected parameter name, found \"" ++ t.text.toText ++ "\"")
  | _, [] => .error "expected parameter name before end of line"

/-- The text of the error for a joining sign with nothing on one side. -/
def joinFault : String := "'##' cannot appear at either end of a macro expansion"

/-- Reads a body. `found` are the pieces so far, the last one first, and `open` says that the last one
is joined to what follows. -/
def pieces (names : Option (List Octets)) : Bool → List Piece → List Token →
    Except String (List Piece)
  | waits, found, [] => if waits then .error joinFault else .ok found.reverse
  | waits, found, t :: rest =>
    let indexOf (name : Octets) : Option Nat :=
      (names.getD []).findIdx? (· = name)
    if t.isJoin then
      match found with
      | [] => .error joinFault
      | last :: others => if waits then pieces names true found rest
        else pieces names true (last.joined :: others) rest
    else if t.isHash && names.isSome then
      match rest with
      | u :: rest =>
        match indexOf u.text with
        | some i => pieces names false (.parameter i true t.spaced false :: found) rest
        | none => .error "'#' is not followed by a macro parameter"
      | [] => .error "'#' is not followed by a macro parameter"
    else
      match indexOf t.text, t.kind with
      | some i, .name => pieces names false (.parameter i false t.spaced false :: found) rest
      | _, _ => pieces names false (.token t :: found) rest

/-- A definition of some tokens with the names of its parameters. -/
def make (names : Option (List Octets)) (variadic : Bool) (tokens : List Token) :
    Except String Definition := do
  match ← pieces names false [] tokens with
  | [] => return ⟨names.map List.length, variadic, []⟩
  | p :: rest => return ⟨names.map List.length, variadic, p.close :: rest⟩

/-- Reads a definition from what follows its name. -/
def read : List Token → Except String Definition
  | t :: rest =>
    if t.isSign "(" && !t.spaced then do
      let (names, variadic, rest) ← parameters [] rest
      make (some names) variadic rest
    else make none false (t :: rest)
  | [] => make none false []

end Definition

end CallbackWeave.Preprocessor

/-!
The arguments of a compiler. Tokens are grouped so that an option and the value it takes from the
following token stay together; `tokens` undoes the grouping.
-/

namespace CallbackWeave

/-- One argument of a compiler command. -/
inductive Argument where
  /-- The option that names the output. Its value is absent only at the end of a command. -/
  | output (value : Option String)
  /-- The option that stops after compilation. -/
  | compileOnly
  /-- Any other option, with the value that it takes from the following token. -/
  | option (flag : String) (value : Option String)
  /-- A token that is no option and no value of one. -/
  | positional (token : String)
deriving DecidableEq, Repr

namespace Argument

/-- The options whose value is the following token. -/
def valueFlags : List String :=
  ["-D", "-U", "-I", "-L", "-MF", "-MQ", "-MT", "-Xassembler", "-Xclang", "-Xlinker",
    "-Xpreprocessor", "-arch", "-aux-info", "-idirafter", "-imacros", "-include", "-iprefix",
    "-iquote", "-isysroot", "-isystem", "-iwithprefix", "-target", "-x", "--sysroot"]

/-- The tokens of an argument. -/
def tokens : Argument → List String
  | output value => "-o" :: value.toList
  | compileOnly => ["-c"]
  | option flag value => flag :: value.toList
  | positional token => [token]

/-- Whether a token has the form of an option; a lone hyphen has not. -/
def isOption (token : String) : Bool :=
  match token.toList with
  | '-' :: _ :: _ => true
  | _ => false

/-- Groups the tokens that follow the program of a command. -/
def group : List String → List Argument
  | [] => []
  | token :: rest =>
    if token = "-o" then
      match rest with
      | [] => [output none]
      | value :: rest => output (some value) :: group rest
    else if token = "-c" then compileOnly :: group rest
    else if token ∈ valueFlags then
      match rest with
      | [] => [option token none]
      | value :: rest => option token (some value) :: group rest
    else if isOption token then option token none :: group rest
    else positional token :: group rest

/-- Whether an argument names the output. -/
def isOutput : Argument → Bool
  | output _ => true
  | _ => false

end Argument

end CallbackWeave

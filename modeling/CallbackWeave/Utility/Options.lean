import CallbackWeave.Host.Search
import CallbackWeave.Number.Literal

/-!
Options of programs. They may stand among the operands; two hyphens end them. A letter may have a value,
which follows it at once or as the next argument, and a long name may be cut short.
-/

namespace CallbackWeave.Utility

/-- Whether an option has a value. -/
inductive Arity where
  | none
  | required
  /-- The value follows at once or not at all. -/
  | optional
deriving DecidableEq, Repr

/-- The options that a program knows. -/
structure OptionTable where
  /-- The letters, each followed by a colon if it has a value and by two if it may have one. -/
  letters : String
  /-- The long names, each with the letter that means the same. -/
  names : List (String × Char × Arity)
  /-- Whether options may follow operands. -/
  mixed : Bool

/-- What the arguments of a program say. -/
structure Parsed where
  options : List (Char × Octets)
  operands : List Octets
deriving Repr

namespace Parsed

/-- Whether an option was given. -/
def has (p : Parsed) (letter : Char) : Bool := (p.options.lookup letter).isSome

/-- The last value that was given for an option. -/
def value? (p : Parsed) (letter : Char) : Option Octets := p.options.reverse.lookup letter

/-- All values that were given for an option. -/
def values (p : Parsed) (letter : Char) : List Octets :=
  p.options.filterMap fun (l, value) => if l = letter then some value else none

/-- The last one of some options that was given. -/
def last? (p : Parsed) (letters : List Char) : Option Char :=
  (p.options.reverse.find? (letters.contains ·.1)).map Prod.fst

end Parsed

namespace OptionTable

/-- How many values a letter has, if the letter is known. -/
def arity? (t : OptionTable) (letter : Char) : Option Arity :=
  if letter = ':' then .none
  else
    match t.letters.toList.dropWhile (· ≠ letter) with
    | [] => Option.none
    | _ :: ':' :: ':' :: _ => some .optional
    | _ :: ':' :: _ => some .required
    | _ => some .none

/-- The long name that a text stands for. -/
def nameOf (t : OptionTable) (text : String) : Except String (String × Char × Arity) :=
  match t.names.find? (·.1 = text) with
  | some found => .ok found
  | none =>
    match t.names.filter (·.1.startsWith text) with
    | [] => .error ("unrecognized option '--" ++ text ++ "'")
    | [only] => .ok only
    | first :: others =>
      if others.all fun other => other.2 = first.2 then .ok first
      else
        let shown := (first :: others).map fun o => " '--" ++ o.1 ++ "'"
        .error ("option '--" ++ text ++ "' is ambiguous; possibilities:" ++ String.join shown)

/-- Adds an option to what has been read. -/
def add (letter : Char) (value : Octets) (p : Parsed) : Parsed :=
  { p with options := (letter, value) :: p.options }

/-- Reads the letters behind a hyphen. The rest of the arguments comes with whether one of them has
been taken as a value. -/
def readLetters (t : OptionTable) (next : Option Octets) : Octets →
    Except String (List (Char × Octets) × Bool)
  | [] => .ok ([], false)
  | letter :: rest =>
    match t.arity? letter with
    | Option.none => .error ("invalid option -- '" ++ (Octets.toText [letter]) ++ "'")
    | some .none => do
      let (more, takes) ← readLetters t next rest
      return ((letter, []) :: more, takes)
    | some .optional => .ok ([(letter, rest)], false)
    | some .required =>
      if !rest.isEmpty then .ok ([(letter, rest)], false)
      else
        match next with
        | some value => .ok ([(letter, value)], true)
        | Option.none => .error ("option requires an argument -- '" ++ String.singleton letter ++ "'")

/-- Reads a long option. -/
def readName (t : OptionTable) (next : Option Octets) (text : Octets) :
    Except String (List (Char × Octets) × Bool) := do
  let (name, value) := Octets.splitAt '=' text
  let (full, letter, arity) ← t.nameOf name.toText
  match arity, value, next with
  | .none, some _, _ => throw ("option '--" ++ full ++ "' doesn't allow an argument")
  | .none, Option.none, _ => return ([(letter, [])], false)
  | .optional, value, _ => return ([(letter, value.getD [])], false)
  | .required, some value, _ => return ([(letter, value)], false)
  | .required, Option.none, some value => return ([(letter, value)], true)
  | .required, Option.none, Option.none =>
    throw ("option '--" ++ full ++ "' requires an argument")

/-- Reads arguments. `skips` says that the first one has been taken as a value. -/
def readFrom (t : OptionTable) : Bool → List Octets → Except String Parsed
  | _, [] => .ok ⟨[], []⟩
  | true, _ :: rest => readFrom t false rest
  | false, argument :: rest => do
    let withOptions (read : Except String (List (Char × Octets) × Bool)) : Except String Parsed := do
      let (options, takes) ← read
      let p ← readFrom t takes rest
      return { p with options := options ++ p.options }
    match argument with
    | ['-', '-'] => return ⟨[], rest⟩
    | '-' :: '-' :: name => withOptions (t.readName rest.head? name)
    | '-' :: c :: letters => withOptions (t.readLetters rest.head? (c :: letters))
    | operand =>
      if t.mixed then
        let p ← readFrom t false rest
        return { p with operands := operand :: p.operands }
      else return ⟨[], argument :: rest⟩

/-- Reads the arguments of a program. -/
def read (t : OptionTable) (arguments : List Octets) : Except String Parsed :=
  t.readFrom false arguments

end OptionTable

/-- A program: from its arguments to its end. -/
abbrev Tool := Launcher → List Octets → Task Ending

/-- A program that starts no others and ends with a status. -/
def Tool.simple (run : List Octets → Task Nat) : Tool := fun _ arguments => do
  return .exited (← run arguments)

/-- Complains about the arguments of a program, and gives its status. -/
def misuse (status : Nat) (message : String) : Task Nat := do
  Task.complain message
  Task.writeTo 2 ("Try '".toList ++ (← read).name ++ " --help' for more information.\n".toList)
  return status

/-- Runs a program with its options read. -/
def withOptions (t : OptionTable) (failure : Nat) (run : Parsed → Task Nat) (arguments : List Octets) :
    Task Nat := do
  match t.read arguments with
  | .ok p => run p
  | .error message => misuse failure message

/-- A text as a complaint shows it. -/
def quoted (text : Octets) : String :=
  let plain := text.toText
  if text.contains '\'' then "\"" ++ plain ++ "\"" else "'" ++ plain ++ "'"

/-- Whether a text can stand in a message without quotes. -/
def isSimple (text : Octets) : Bool :=
  !text.isEmpty && text.all fun c => c.isAlphanum || "%+,-./:@_=".toList.contains c

/-- A text as a message shows it, in quotes only if it needs them. -/
def shown (text : Octets) : String := if isSimple text then text.toText else quoted text

end CallbackWeave.Utility

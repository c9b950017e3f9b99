import CallbackWeave.CompileCommand.Basic
import CallbackWeave.Json.Reader
import CallbackWeave.Json.Writer

/-!
Compile commands in JSON. A command is read from an object, whose unknown members are passed
over, or from a list of up to four values in the order of the fields; it is written as an object
without the members that are absent.
-/

namespace CallbackWeave.CompileCommand

/-- A field of a command. -/
inductive Field where
  | directory
  | file
  | command
  | arguments
deriving DecidableEq, Repr

/-- The key of a field. -/
def Field.key : Field → String
  | directory => "directory"
  | file => "file"
  | command => "command"
  | arguments => "arguments"

/-- The field of a key. -/
def Field.ofKey? (key : String) : Option Field :=
  [directory, file, command, arguments].find? (·.key = key)

/-- The fields of a command that have been read so far. -/
structure Draft where
  directory : Option Path
  file : Option Path
  command : Option (Option String)
  arguments : Option (Option (List String))

namespace Draft

/-- Nothing has been read. -/
def empty : Draft := ⟨none, none, none, none⟩

/-- Whether a field has been read. -/
def has (d : Draft) : Field → Bool
  | .directory => d.directory.isSome
  | .file => d.file.isSome
  | .command => d.command.isSome
  | .arguments => d.arguments.isSome

/-- The command of the fields that have been read, or the first field that is missing. -/
def finish (d : Draft) : Except Field CompileCommand :=
  match d.directory, d.file with
  | none, _ => .error .directory
  | some _, none => .error .file
  | some directory, some file =>
    .ok ⟨directory, file, d.command.getD none, d.arguments.getD none⟩

end Draft

/-- Takes a path. -/
def readPath : Json.Reader Path := fun text =>
  (Json.readText "path string" text).map fun (value, rest) => (⟨value⟩, rest)

/-- Takes a string. -/
def readToken : Json.Reader String := Json.readText "a string"

/-- Takes the value of a field. -/
def Draft.readField (d : Draft) (field : Field) (text : List Char) :
    Except Json.Fault (Draft × List Char) :=
  match field with
  | .directory => (readPath text).map fun (v, rest) => ({ d with directory := some v }, rest)
  | .file => (readPath text).map fun (v, rest) => ({ d with file := some v }, rest)
  | .command =>
    (Json.readOptional readToken text).map fun (v, rest) => ({ d with command := some v }, rest)
  | .arguments =>
    (Json.readOptional (Json.readList readToken) text).map fun (v, rest) =>
      ({ d with arguments := some v }, rest)

/-- Where a fault of a whole object is reported: past the brace that ends it, if that comes next. -/
def settle (text : List Char) : List Char :=
  match Json.skipSpace text with
  | '}' :: rest => rest
  | rest => rest

/-- Takes the members of an object; `first` says that none has been taken yet. `fuel` bounds their
number. -/
def readMembers : Nat → Bool → Draft → Json.Reader CompileCommand
  | 0, _, _, text => .error (.before .endInObject text)
  | fuel + 1, first, draft, text => do
    match ← Json.readKey first text with
    | (none, rest) =>
      match draft.finish with
      | .ok command => return (command, rest)
      | .error field => throw (.before (.missingField field.key) rest)
    | (some key, rest) =>
      match Field.ofKey? key with
      | none => readMembers fuel false draft (← Json.skipValue (← Json.readColon rest))
      | some field =>
        if draft.has field then throw (.before (.repeatedField key) (settle rest))
        let (draft, rest) ← draft.readField field (← Json.readColon rest)
        readMembers fuel false draft rest

/-- Takes the next value of a list, if there is one; `first` says that none has been taken yet. -/
def readNext {α : Type} (reader : Json.Reader α) (first : Bool) (text : List Char) :
    Except Json.Fault (Option α × List Char) :=
  match Json.skipSpace text with
  | [] => .error (.before .endInList [])
  | ']' :: rest => .ok (none, ']' :: rest)
  | c :: rest =>
    if first then (reader (c :: rest)).map fun (v, rest) => (some v, rest)
    else if c = ',' then
      match Json.skipSpace rest with
      | [] => .error (.before .endInValue [])
      | ']' :: rest => .error (.at .trailingComma (']' :: rest))
      | next => (reader next).map fun (v, rest) => (some v, rest)
    else .error (.at .expectedListEnd (c :: rest))

/-- What a command is called in faults of its length. -/
def lengthExpected : String := "struct CompileCommand with 4 elements"

/-- Takes a list of fields after its opening bracket. The last two may be left out. -/
def readFields : Json.Reader CompileCommand := fun text => do
  match ← readNext readPath true text with
  | (none, rest) => throw (.before (.wrongLength 0 lengthExpected) (rest.drop 1))
  | (some directory, rest) =>
    match ← readNext readPath false rest with
    | (none, rest) => throw (.before (.wrongLength 1 lengthExpected) (rest.drop 1))
    | (some file, rest) =>
      let (command, rest) ← readNext (Json.readOptional readToken) false rest
      let (arguments, rest) ← readNext (Json.readOptional (Json.readList readToken)) false rest
      let rest ← Json.readListEnd rest
      return (⟨directory, file, command.getD none, arguments.getD none⟩, rest)

/-- Takes a command. -/
def read : Json.Reader CompileCommand := fun text =>
  match Json.skipSpace text with
  | [] => .error (.before .endInValue [])
  | '[' :: rest => readFields rest
  | '{' :: rest => readMembers (rest.length + 1) true .empty rest
  | rest => Json.misplaced "struct CompileCommand" rest

/-- The members of a command that are written. -/
def members (c : CompileCommand) : List (String × List Char) :=
  [(Field.directory.key, Json.writeString c.directory.text),
    (Field.file.key, Json.writeString c.file.text)]
  ++ c.command.toList.map (fun line => (Field.command.key, Json.writeString line))
  ++ c.arguments.toList.map fun tokens =>
    (Field.arguments.key, Json.writeList (tokens.map Json.writeString))

/-- A command as an object. -/
def write (c : CompileCommand) : List Char := Json.writeObject c.members

/-- A list of commands. -/
def writeAll (commands : List CompileCommand) : List Char :=
  Json.writeList (commands.map write)

end CallbackWeave.CompileCommand

import CallbackWeave.Awk.Reader
import CallbackWeave.Awk.Value
import CallbackWeave.Host.Search

/-!
What a program that goes through records holds: variables and arrays, the record with its fields, and
the files and commands that it reads and writes. Fields and record follow each other: when one is
changed the other one is made again.
-/

namespace CallbackWeave.Awk

/-- What a name stands for. -/
inductive Cell where
  | unset
  /-- A name without value that has been given to a function, which may make it an array. -/
  | pending (table : Nat)
  | scalar (v : Value)
  | array (table : Nat)
deriving Repr

/-- A file or a command that is read. -/
structure Input where
  rest : Octets
  /-- How the command ended. -/
  ending : Option Ending

/-- Where output goes that is not the usual one. -/
inductive Output where
  | standard
  | messages
  | stream (index : Nat)
  /-- A command, which gets its input when it is closed; the last part comes first. -/
  | command (parts : List Octets)

/-- What is held while a program runs. -/
structure State where
  functions : List (Octets × Function)
  globals : List (Octets × Cell)
  /-- The names of the functions under way, the innermost one first. -/
  frames : List (List (Octets × Cell))
  tables : Array Table
  record : Value
  fields : List Value
  /-- What is left of the file under way, and whether there is one. -/
  rest : Octets
  isOpen : Bool
  /-- The number of the next argument, and whether one of them was a file. -/
  argument : Nat
  hasFile : Bool
  /-- Whether there are no more records. -/
  atEnd : Bool
  inputs : List (Octets × Input)
  outputs : List (Octets × Output)
  /-- What has been printed and not yet been written, last part first. -/
  buffer : List Octets
  /-- The rules with ranges in which the record is. -/
  active : List Nat
  status : Nat
  launch : Launcher

/-- Why a statement is left. -/
inductive Leave where
  | loop
  | turn
  | record
  | file
  | exit
  | answer (v : Value)
  /-- The program cannot go on. -/
  | failed (message : String)
  /-- The same, and what has to be told has been told. -/
  | stopped

/-- What a program does. -/
abbrev Act := ExceptT Leave (StateT State Task)

namespace Act

/-- Ends with a mistake. -/
def fail (message : String) : Act α := throw (.failed message)

/-- Tells why the program cannot go on, and ends it. -/
def stop (message : String) : Act α := do
  (Task.complain message : Task Unit)
  throw .stopped

/-! ## Names -/

/-- The cell of a name, and whether it belongs to the function under way. -/
def cellOf (s : State) (name : Octets) : Bool × Cell :=
  match s.frames.head?.bind (List.lookup name) with
  | some cell => (true, cell)
  | none => (false, (s.globals.lookup name).getD .unset)

/-- A list with another cell for a name. -/
def putCell (cells : List (Octets × Cell)) (name : Octets) (cell : Cell) : List (Octets × Cell) :=
  if (cells.lookup name).isSome then
    cells.map fun (n, old) => if n = name then (n, cell) else (n, old)
  else (name, cell) :: cells

/-- Changes the cell of a name. -/
def setCell (name : Octets) (cell : Cell) : Act Unit :=
  modify fun s =>
    match cellOf s name, s.frames with
    | (true, _), frame :: frames => { s with frames := putCell frame name cell :: frames }
    | _, _ => { s with globals := putCell s.globals name cell }

/-- The value of a variable that all functions share. -/
def setting (name : String) : Act Value := do
  match (← get).globals.lookup name.toList with
  | some (.scalar v) => return v
  | _ => return .unset

/-- Changes a variable that all functions share. -/
def setSetting (name : String) (v : Value) : Act Unit :=
  modify fun s => { s with globals := putCell s.globals name.toList (.scalar v) }

/-- The format in which numbers become texts. -/
def numberFormat : Act Octets := do return (← setting "CONVFMT").toText "%.6g".toList

/-- The text that a value is. -/
def textOf (v : Value) : Act Octets := do
  match v with
  | .number _ => return v.toText (← numberFormat)
  | v => return v.toText []

/-- The text of a variable that all functions share. -/
def settingText (name : String) : Act Octets := do textOf (← setting name)

/-- Adds an array and gives its number. -/
def addTable (t : Table) : Act Nat := do
  let s ← get
  set { s with tables := s.tables.push t }
  return s.tables.size

/-- The array that a name stands for. -/
def arrayOf (name : Octets) : Act Nat := do
  match (cellOf (← get) name).2 with
  | .array id => return id
  | .pending id => setCell name (.array id); return id
  | .unset =>
    let id ← addTable .empty
    setCell name (.array id)
    return id
  | .scalar _ => stop ("line 1: illegal reference to variable " ++ name.toText)

/-- An array by its number. -/
def table (id : Nat) : Act Table := do return (← get).tables[id]?.getD .empty

/-- Changes an array. -/
def setTable (id : Nat) (t : Table) : Act Unit :=
  modify fun s => { s with tables := s.tables.setIfInBounds id t }

/-! ## Records and fields -/

/-- What a separator means; a mistake in it ends the program. -/
def separator (text : Octets) : Act Separator := do
  match Separator.ofText text with
  | .ok separator => return separator
  | .error fault =>
    fail ("regular expression compile failed (" ++ fault.message ++ ")\n" ++ text.toText)

/-- The fields of a record. -/
def fieldsOf (text : Octets) : Act (List Value) := do
  return ((← separator (← settingText "FS")).parts text).map Value.ofInput

/-- Changes the record. -/
def setRecord (text : Octets) : Act Unit := do
  let fields ← fieldsOf text
  modify fun s => { s with record := .ofInput text, fields := fields }

/-- Makes the record from its fields. -/
def joinFields : Act Unit := do
  let between ← settingText "OFS"
  let parts ← (← get).fields.mapM textOf
  modify fun s => { s with record := .ofInput (between.intercalate parts) }

/-- The fields, as many as are asked for. -/
def resized (count : Nat) (fields : List Value) : List Value :=
  fields.take count ++ List.replicate (count - fields.length) (.text [])

/-- The number of a field. -/
def fieldNumber (v : Value) : Act Nat := do
  let n := Value.integerOf v.toNumber
  if n < 0 then fail ("negative field index $" ++ toString n) else return n.toNat

/-- A field; the field zero is the record. -/
def field (n : Nat) : Act Value := do
  let s ← get
  return if n = 0 then s.record else s.fields[n - 1]?.getD (.text [])

/-- Changes a field. -/
def setField (n : Nat) (v : Value) : Act Unit := do
  if n = 0 then setRecord (← textOf v)
  else
    modify fun s => { s with fields := (resized (max n s.fields.length) s.fields).set (n - 1) v }
    joinFields

/-- The value of a name. -/
def valueOf (name : Octets) : Act Value := do
  let s ← get
  if name = "NF".toList then return .ofNat s.fields.length
  else
    match (cellOf s name).2 with
    | .scalar v => return v
    | .array _ => stop ("line 1: illegal reference to array " ++ name.toText)
    | _ => return .unset

/-- Changes the value of a name. -/
def setValue (name : Octets) (v : Value) : Act Unit := do
  if name = "NF".toList then
    let count := (Value.integerOf v.toNumber).toNat
    modify fun s => { s with fields := resized count s.fields }
    joinFields
  else
    match (cellOf (← get) name).2 with
    | .array _ => stop ("line 1: illegal reference to array " ++ name.toText)
    | _ => setCell name (.scalar v)

/-! ## Writing -/

/-- Prints a text, which is written later. -/
def print (text : Octets) : Act Unit := modify fun s => { s with buffer := text :: s.buffer }

/-- Writes what has been printed. -/
def flush : Act Unit := do
  let parts := (← get).buffer
  modify fun s => { s with buffer := [] }
  (Task.print parts.reverse.flatten : Task Unit)

/-- Where output goes. -/
def outputOf (sink : Sink) (name : Octets) : Act Output := do
  match (← get).outputs.lookup name with
  | some output => return output
  | none =>
    let output ← match sink with
      | .command => do
        flush
        pure (.command [])
      | sink =>
        if name = "/dev/stdout".toList || name = ['-'] then pure .standard
        else if name = "/dev/stderr".toList then pure .messages
        else do
          let mode : OpenMode := if sink = .append then .append else .write
          match ← (Task.openFile mode name : Task (Except IoError Nat)) with
          | .ok index => pure (.stream index)
          | .error cause =>
            stop ("cannot open \"" ++ name.toText ++ "\" for output (" ++ cause.plainMessage ++ ")")
    modify fun s => { s with outputs := s.outputs ++ [(name, output)] }
    return output

/-- Writes a text. -/
def write (sink : Option (Sink × Octets)) (text : Octets) : Act Unit := do
  match sink with
  | none => print text
  | some (sink, name) =>
    match ← outputOf sink name with
    | .standard => print text
    | .messages => (Task.writeTo 2 text : Task Unit)
    | .stream index => do
      let h ← (get : Task Host)
      (set (h.write index text).2 : Task Unit)
    | .command parts =>
      modify fun s =>
        { s with outputs := s.outputs.map fun (n, o) =>
            if n = name then (n, .command (text :: parts)) else (n, o) }

/-! ## Reading -/

/-- A text that is an assignment: its name and its value. -/
def assignment? (text : Octets) : Option (Octets × Octets) :=
  let name := text.takeWhile Token.isNameChar
  match text.drop name.length with
  | '=' :: value =>
    if name.isEmpty || name.head?.any Char.isDigit then none
    else some (name, Token.unescaped 0 value)
  | _ => none

/-- The next end of a record in a text. -/
def nextPart (text : Octets) : Act (Option (Octets × Octets)) := do
  match takeRecord (← settingText "RS") text with
  | .ok part => return part
  | .error fault => fail ("regular expression compile failed (" ++ fault.message ++ ")")

/-- The content of a file that has to be there. -/
def contentOf (name : Octets) : Act Octets := do
  match ← (Task.content name : Task (Except IoError Octets)) with
  | .ok text => return text
  | .error .isDirectory => stop "read error (Is a directory)"
  | .error cause =>
    stop ("cannot open \"" ++ name.toText ++ "\" (" ++ cause.plainMessage ++ ")")

/-- Opens the next file that the arguments name, if there is one. `fuel` bounds the arguments. -/
def nextFile : Nat → Act Bool
  | 0 => return false
  | fuel + 1 => do
    let s ← get
    let count := (Value.integerOf (← setting "ARGC").toNumber).toNat
    if s.argument ≥ count then
      if s.hasFile then return false
      else
        let text ← (Task.readAll 0 : Task (Except IoError Octets))
        modify fun s => { s with hasFile := true, isOpen := true, rest := text.toOption.getD [] }
        setSetting "FILENAME" (.text ['-'])
        return true
    else
      let key := Key.int s.argument
      let t ← table (← arrayOf "ARGV".toList)
      modify fun s => { s with argument := s.argument + 1 }
      let argument ← textOf (t.get key)
      if argument.isEmpty then nextFile fuel
      else
        match assignment? argument with
        | some (name, value) =>
          setValue name (.ofInput value)
          nextFile fuel
        | none =>
          let text ← contentOf argument
          modify fun s => { s with hasFile := true, isOpen := true, rest := text }
          setSetting "FILENAME" (.text argument)
          setSetting "FNR" (.number 0.0)
          return true

/-- Adds one to a variable that all functions share. -/
def increase (name : String) : Act Unit := do
  setSetting name (.number ((← setting name).toNumber + 1.0))

/-- Takes the next record, if there is one. `fuel` bounds the files. -/
def takeNext : Nat → Act (Option Octets)
  | 0 => return none
  | fuel + 1 => do
    if (← get).atEnd then return none
    let part ← if (← get).isOpen then nextPart (← get).rest else pure none
    match part with
    | some (record, rest) =>
      modify fun s => { s with rest := rest }
      increase "NR"
      increase "FNR"
      return some record
    | none =>
      let s ← get
      if ← nextFile (s.argument + 1000) then takeNext fuel
      else
        modify fun s => { s with atEnd := true, isOpen := false }
        return none

/-- The next record of the files that the arguments name. -/
def nextRecord : Act (Option Octets) := takeNext 10000

/-- The next record of a file or of the output of a command; the first result is whether it could be
opened. -/
def nextLine (fromCommand : Bool) (name : Octets) : Act (Bool × Option Octets) := do
  let input? ← match (← get).inputs.lookup name with
    | some input => pure (some input)
    | none => do
      if fromCommand then
        flush
        let launch := (← get).launch
        let (output, ending) ← (Task.outputOf launch name : Task (Octets × Ending))
        pure (some ⟨output, some ending⟩)
      else
        match ← (Task.content name : Task (Except IoError Octets)) with
        | .ok text => pure (some ⟨text, none⟩)
        | .error _ => pure none
  match input? with
  | none => return (false, none)
  | some input =>
    let part ← nextPart input.rest
    let rest := (part.map Prod.snd).getD []
    modify fun s =>
      { s with inputs := (name, { input with rest := rest }) :: s.inputs.filter (·.1 ≠ name) }
    return (true, part.map Prod.fst)

/-! ## Ending -/

/-- The number that tells how a command ended. -/
def statusOf : Ending → Value
  | .exited n => .ofNat n
  | .killed signal => .ofNat (256 + signal)

/-- Runs a command with the input that has been written for it. -/
def runWith (command : Octets) (parts : List Octets) : Act Ending := do
  let launch := (← get).launch
  let index ← (Task.addStream (.pipe parts.reverse.flatten []) : Task Nat)
  (Task.withStream 0 index (Task.runCommand launch command) : Task Ending)

/-- Closes a file or a command. -/
def close (name : Octets) : Act Value := do
  let s ← get
  set { s with
    inputs := s.inputs.filter (·.1 ≠ name)
    outputs := s.outputs.filter (·.1 ≠ name) }
  match s.outputs.lookup name, s.inputs.lookup name with
  | some (.command parts), _ => return statusOf (← runWith name parts)
  | some _, _ => return .number 0.0
  | none, some input => return (input.ending.map statusOf).getD (.number 0.0)
  | none, none => return .number (-1.0)

/-- Closes all that has been written to. -/
def closeAll : Act Unit := do
  for (name, _) in (← get).outputs do
    let _ ← close name

end Act

end CallbackWeave.Awk

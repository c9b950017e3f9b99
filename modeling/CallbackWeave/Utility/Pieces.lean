import CallbackWeave.Utility.Files

/-!
Programs that make files out of parts of others or change how long they are, and those that tell about
files or name new ones.
-/

namespace CallbackWeave.Utility

/-! ## Parts -/

namespace Split

def options : OptionTable :=
  ⟨"a:b:C:del:n:t:ux0123456789",
    [("suffix-length", 'a', .required), ("bytes", 'b', .required), ("lines", 'l', .required),
      ("numeric-suffixes", 'd', .optional), ("additional-suffix", 'S', .required),
      ("number", 'n', .required)], true⟩

/-- The name of a part by its number, in digits of some letters. -/
def suffix (letters : Octets) (width n : Nat) : Octets :=
  (List.range width).reverse.map fun i => letters.getD (n / Nat.pow letters.length i % letters.length) 'a'

/-- A list in groups of a size. `fuel` bounds their number. -/
def groups {α : Type} (size : Nat) : Nat → List α → List (List α)
  | 0, _ => []
  | fuel + 1, all => if all.isEmpty then [] else all.take size :: groups size fuel (all.drop size)

/-- The parts of a text. -/
def parts (p : Parsed) (text : Octets) : Option (List Octets) :=
  let digits := p.options.filterMap fun (l, _) => if l.isDigit then some l else none
  let count (letter : Char) : Option Nat := (p.value? letter).bind scaledCount?
  if p.has 'b' then
    (count 'b').filter (0 < ·) |>.map fun n => groups n (text.length + 1) text
  else if p.has 'n' then
    (count 'n').filter (0 < ·) |>.map fun n =>
      let start (i : Nat) : Nat := i * (text.length / n) + min i (text.length % n)
      (List.range n).map fun i => (text.drop (start i)).take (start (i + 1) - start i)
  else
    let size := if p.has 'l' then count 'l'
      else if digits.isEmpty then some 1000 else Number.natOfDigits? 10 digits
    size.filter (0 < ·) |>.map fun n =>
      (groups n (text.length + 1) (Octets.lines text)).map List.flatten

/-- Makes a file of each part of a file. -/
def run (p : Parsed) : Task Nat := do
  let source := p.operands.headD ['-']
  let text ← match ← Task.content source with
    | .ok text => pure text
    | .error cause => do
      Task.complain ("cannot open " ++ quoted source ++ " for reading: " ++ cause.plainMessage)
      return 1
  let front := (p.operands.drop 1).headD ['x']
  match parts p text with
  | none =>
    Task.complain "invalid number"
    return 1
  | some found =>
    let letters : Octets :=
      if p.has 'd' then "0123456789".toList else "abcdefghijklmnopqrstuvwxyz".toList
    let width := ((p.value? 'a').bind (Number.natOfDigits? 10)).getD 2
    for (part, i) in found.zipIdx do
      let name := front ++ suffix letters width i ++ (p.value? 'S').getD []
      match ← Task.store name part with
      | none => pure ()
      | some cause =>
        Task.complain (name.toText ++ ": " ++ cause.plainMessage)
        return 1
    return 0

end Split

namespace Transfer

/-- The value of an operand. -/
def value? (operands : List Octets) (name : String) : Option Octets :=
  operands.reverse.findSome? fun operand =>
    match Octets.splitAt '=' operand with
    | (n, some value) => if n = name.toList then some value else none
    | _ => none

/-- The names of operands. -/
def names : List String :=
  ["if", "of", "bs", "ibs", "obs", "count", "skip", "iseek", "seek", "oseek", "conv", "iflag", "oflag",
    "status", "cbs"]

/-- Changes a text as a list of names says. -/
def converted (kinds : List Octets) (text : Octets) : Octets :=
  let has (kind : String) : Bool := kinds.contains kind.toList
  let text := if has "ucase" then text.map Char.toUpper else text
  if has "lcase" then text.map Char.toLower else text

/-- Copies a part of a file into another one, in blocks. -/
def run (operands : List Octets) : Task Nat := do
  let known (operand : Octets) : Bool :=
    names.contains (String.ofList (operand.takeWhile (· ≠ '='))) && operand.contains '='
  match operands.find? (!known ·) with
  | some operand => misuse 1 ("unrecognized operand " ++ quoted operand)
  | none =>
    let number (name : String) : Option Nat := (value? operands name).bind scaledCount?
    let size := (number "bs" <|> number "ibs").getD 512
    let outer := (number "bs" <|> number "obs").getD 512
    let source := (value? operands "if").getD ['-']
    match ← Task.content source with
    | .error cause =>
      Task.complain ("failed to open " ++ quoted source ++ ": " ++ cause.plainMessage)
      return 1
    | .ok text =>
      let skipped := (number "skip" <|> number "iseek").getD 0 * size
      let rest := text.drop skipped
      let taken := match number "count" with
        | some n => rest.take (n * size)
        | none => rest
      if (value? operands "if").isNone then Task.rewind (rest.drop taken.length)
      let kinds := ((value? operands "conv").getD []).splitOn ','
      let output := converted kinds taken
      let sought := (number "seek" <|> number "oseek").getD 0 * outer
      let failed ← match value? operands "of" with
        | none => do Task.print output; pure none
        | some name => do
          let old := match ← Task.content name with
            | .ok text => text
            | .error _ => []
          let isKept := kinds.contains "notrunc".toList
          let front := old.take sought ++ List.replicate (sought - old.length) '\x00'
          let back := if isKept then old.drop (sought + output.length) else []
          let failed ← Task.store name (front ++ output ++ back)
          pure (failed.map fun cause => (name, cause))
      match failed with
      | some (name, cause) =>
        Task.complain ("failed to open " ++ quoted name ++ ": " ++ cause.plainMessage)
        return 1
      | none =>
        let quiet := value? operands "status" = some "none".toList
        let records (n size : Nat) : String :=
          toString (n / size) ++ "+" ++ (if n % size = 0 then "0" else "1") ++ " records "
        if !quiet then
          Task.writeTo 2 (Octets.ofText (records taken.length size ++ "in\n"
            ++ records output.length outer ++ "out\n"))
        return 0

end Transfer

namespace Truncate

def options : OptionTable :=
  ⟨"cor:s:", [("no-create", 'c', .none), ("reference", 'r', .required), ("size", 's', .required)], true⟩

/-- The length that a text asks for, where a file has a length. -/
def sizeOf? (length : Nat) (text : Octets) : Option Nat :=
  match text with
  | '+' :: rest => (scaledCount? rest).map (length + ·)
  | '-' :: rest => (scaledCount? rest).map (length - ·)
  | '<' :: rest => (scaledCount? rest).map (min length)
  | '>' :: rest => (scaledCount? rest).map (max length)
  | '/' :: rest => (scaledCount? rest).map fun n => length / n * n
  | '%' :: rest => (scaledCount? rest).map fun n => (length + n - 1) / n * n
  | _ => scaledCount? text

/-- Makes files shorter or longer. -/
def run (p : Parsed) : Task Nat := do
  match p.value? 's', p.operands with
  | none, _ => misuse 1 "you must specify either '--size' or '--reference'"
  | some _, [] => misuse 1 "missing file operand"
  | some size, names =>
    eachOperand names fun name => do
      let found ← Task.content name
      let old := match found with
        | .ok text => text
        | .error _ => []
      match found, p.has 'c', sizeOf? old.length size with
      | _, _, none =>
        Task.complain ("Invalid number: " ++ quoted size)
        return false
      | .error _, true, _ => return true
      | _, _, some n =>
        match ← Task.store name (old.take n ++ List.replicate (n - old.length) '\x00') with
        | none => return true
        | some cause => refuse ("cannot open " ++ quoted name ++ " for writing") cause

end Truncate

/-! ## Names -/

/-- Removes one file. -/
def runUnlink (p : Parsed) : Task Nat := do
  match p.operands with
  | [name] =>
    match ← Task.change fun fs => fs.remove name.toPath with
    | none => return 0
    | some cause =>
      Task.complain ("cannot unlink " ++ quoted name ++ ": " ++ cause.plainMessage)
      return 1
  | [] => misuse 1 "missing operand"
  | _ :: extra :: _ => misuse 1 ("extra operand " ++ quoted extra)

namespace NewName

def options : OptionTable :=
  ⟨"dp:qtuV",
    [("directory", 'd', .none), ("quiet", 'q', .none), ("suffix", 'S', .required),
      ("tmpdir", 'p', .optional), ("dry-run", 'u', .none)], true⟩

/-- The letters that stand for a number, which differ for different numbers. -/
def letters (width n : Nat) : Octets :=
  Split.suffix "abcdefghijklmnopqrstuvwxyzABCDEFGHIJKLMNOPQRSTUVWXYZ0123456789".toList width
    (n * 7919 + 524287 * Nat.pow 62 (width - 2))

/-- Makes a file or a directory with a name that nothing has yet. -/
def run (p : Parsed) : Task Nat := do
  let template := p.operands.headD "tmp.XXXXXXXXXX".toList
  let suffix := (p.value? 'S').getD []
  let count := (template.reverse.takeWhile (· = 'X')).length
  if count < 3 then
    Task.complain ("too few X's in template " ++ quoted template)
    return 1
  let front := template.take (template.length - count)
  let inDirectory := p.operands.isEmpty || p.has 'p' || p.has 't'
  let usual := ((← read).setting? "TMPDIR").getD "/tmp".toList
  let directory := match p.value? 'p' with
    | some d => if d.isEmpty then usual else d
    | none => usual
  let front := if inDirectory then within directory front else front
  let names := (List.range 1000).map fun n => front ++ letters count n ++ suffix
  let files ← Task.files
  match names.find? fun name => !files.holds name.toPath with
  | none => return 1
  | some name =>
    let failed ← if p.has 'u' then pure none
      else if p.has 'd' then Task.change fun fs => fs.makeDirectory name.toPath
      else Task.store name []
    match failed with
    | none => Task.printLine name; return 0
    | some cause =>
      let shown := front ++ List.replicate count 'X' ++ suffix
      let kind := if p.has 'd' then "directory" else "file"
      if !p.has 'q' then
        Task.complain ("failed to create " ++ kind ++ " via template " ++ quoted shown ++ ": "
          ++ cause.plainMessage)
      return 1

end NewName

namespace Status

def options : OptionTable :=
  ⟨"c:fLt", [("format", 'c', .required), ("printf", 'P', .required), ("dereference", 'L', .none)], true⟩

/-- A part of what is told about a file, by its letter. -/
def part (name : Octets) (entry : Entry) (letter : Char) : Octets :=
  let size := match entry with
    | .file content _ => content.length
    | .link target => (Octets.ofText target.text).length
    | .directory => 4096
  let (mode, letters, kind) : String × String × String := match entry with
    | .file content true => ("755", "-rwxr-xr-x",
        if content.isEmpty then "regular empty file" else "regular file")
    | .file content false => ("644", "-rw-r--r--",
        if content.isEmpty then "regular empty file" else "regular file")
    | .link _ => ("777", "lrwxrwxrwx", "symbolic link")
    | .directory => ("755", "drwxr-xr-x", "directory")
  match letter with
  | 'n' => name
  | 'N' =>
    let target : Octets := match entry with
      | .link target => Octets.ofText (" -> " ++ quoted (Octets.ofText target.text))
      | _ => []
    Octets.ofText (quoted name) ++ target
  | 's' => Octets.ofNat size
  | 'a' => mode.toList
  | 'A' => letters.toList
  | 'F' => kind.toList
  | 'u' | 'g' => ['0']
  | 'U' | 'G' => "root".toList
  | 'h' => if entry = .directory then ['2'] else ['1']
  | 'b' => Octets.ofNat ((size + 4095) / 4096 * 8)
  | 'B' => "512".toList
  | 'o' => "4096".toList
  | '%' => ['%']
  | _ => ['?']

/-- What a format tells about a file. -/
def format (name : Octets) (entry : Entry) : Octets → Octets
  | '%' :: letter :: rest => part name entry letter ++ format name entry rest
  | c :: rest => c :: format name entry rest
  | [] => []

/-- The escapes of a format. -/
def unescaped : Octets → Octets
  | '\\' :: c :: rest =>
    let d := ([('n', '\n'), ('t', '\t'), ('\\', '\\'), ('"', '"'), ('0', '\x00')].lookup c).getD c
    d :: unescaped rest
  | c :: rest => c :: unescaped rest
  | [] => []

/-- Tells about files. -/
def run (p : Parsed) : Task Nat := do
  if p.operands.isEmpty then misuse 1 "missing operand"
  else
    eachOperand p.operands fun name => do
      match ← (if p.has 'L' then targetOf name else spotOf name) with
      | .ok ⟨_, some entry⟩ =>
        match p.value? 'P', p.value? 'c' with
        | some text, _ => Task.print (format name entry (unescaped text))
        | none, some text => Task.printLine (format name entry text)
        | none, none =>
          Task.printLine ("  File: ".toList ++ name)
        return true
      | .ok ⟨_, none⟩ => refuse ("cannot statx " ++ quoted name) .noSuchEntry
      | .error cause => refuse ("cannot statx " ++ quoted name) cause

end Status

end CallbackWeave.Utility

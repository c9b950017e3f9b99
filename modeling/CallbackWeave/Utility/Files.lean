import CallbackWeave.Utility.Lines

/-!
Programs that make, move and remove files, directories and links, and those that list them.
-/

namespace CallbackWeave

namespace FileTree

/-- A tree in which what stands at and below a location stands at another one. -/
def move (t : FileTree) (source target : Location) : FileTree :=
  let inside (place : Location) (known : Location) : Bool := place.isPrefixOf known
  let kept := t.entries.filter fun e => !inside source e.1 && !inside target e.1
  let moved := t.entries.filterMap fun (known, entry) =>
    if inside source known then some (target ++ known.drop source.length, entry) else none
  ⟨moved ++ kept⟩

/-- A tree in which what stands at and below a location stands at another one too. -/
def duplicate (t : FileTree) (source target : Location) : FileTree :=
  let copies := t.entries.filter fun e => source.isPrefixOf e.1
  (copies.reverse).foldl (fun t (known, entry) => t.put (target ++ known.drop source.length) entry) t

/-- A tree without what stands at and below a location. -/
def eraseAll (t : FileTree) (place : Location) : FileTree :=
  ⟨t.entries.filter fun e => !place.isPrefixOf e.1⟩

end FileTree

namespace Utility

/-- What a path names, and where; links themselves are named. -/
def spotOf (name : Octets) : Task (Except IoError Spot) := do
  return (← Task.files).locate .entry name.toPath

/-- What a path leads to, and where. -/
def targetOf (name : Octets) : Task (Except IoError Spot) := do
  return (← Task.files).locate .target name.toPath

/-- Whether a path leads to a directory. -/
def leadsToDirectory (name : Octets) : Task Bool := do
  return (← Task.files).isDirectory name.toPath

/-- Puts another tree in the place of the tree. -/
def setTree (tree : FileTree) : Task Unit := modify fun h => { h with tree := tree }

/-- The name at the end of a path. -/
def lastName (name : Octets) : Octets :=
  let trimmed := (name.reverse.dropWhile (· = '/')).reverse
  (trimmed.reverse.takeWhile (· ≠ '/')).reverse

/-- The path of an entry in a directory. -/
def within (directory name : Octets) : Octets :=
  if directory.getLast? = some '/' then directory ++ name else directory ++ '/' :: name

/-- Does something for each operand, and gives the status one if it fails for any. -/
def eachOperand (operands : List Octets) (f : Octets → Task Bool) : Task Nat := do
  let results ← operands.mapM f
  return if results.all id then 0 else 1

/-- Complains about a file, which counts as a failure. -/
def refuse (message : String) (cause : IoError) : Task Bool := do
  Task.complain (message ++ ": " ++ cause.plainMessage)
  return false

/-! ## Making -/

namespace MakeDirectory

def options : OptionTable :=
  ⟨"m:pv", [("mode", 'm', .required), ("parents", 'p', .none), ("verbose", 'v', .none)], true⟩

/-- Makes directories. -/
def run (p : Parsed) : Task Nat := do
  if p.operands.isEmpty then misuse 1 "missing operand"
  else
    eachOperand p.operands fun name => do
      let fails ← Task.change fun fs =>
        if p.has 'p' then fs.makeDirectories name.toPath else fs.makeDirectory name.toPath
      match fails with
      | none =>
        if p.has 'v' then
          Task.printLine ((← read).name ++ ": created directory ".toList ++ Octets.ofText (quoted name))
        return true
      | some cause => refuse ("cannot create directory " ++ quoted name) cause

end MakeDirectory

namespace Touch

def options : OptionTable :=
  ⟨"acd:fhmr:t:", [("no-create", 'c', .none), ("date", 'd', .required),
    ("reference", 'r', .required)], true⟩

/-- Makes files that do not exist. -/
def run (p : Parsed) : Task Nat := do
  if p.operands.isEmpty then misuse 1 "missing file operand"
  else
    eachOperand p.operands fun name => do
      if (← Task.files).holds name.toPath || p.has 'c' then return true
      else
        match ← Task.openFile .both name with
        | .ok _ => return true
        | .error cause => refuse ("cannot touch " ++ quoted name) cause

end Touch

namespace Link

def options : OptionTable :=
  ⟨"fiLnPrst:Tv",
    [("force", 'f', .none), ("no-dereference", 'n', .none), ("symbolic", 's', .none),
      ("target-directory", 't', .required), ("no-target-directory", 'T', .none),
      ("verbose", 'v', .none)], true⟩

/-- Makes a link at a path. -/
def make (p : Parsed) (target name : Octets) : Task Bool := do
  let isSymbolic := p.has 's'
  let title := if isSymbolic then "failed to create symbolic link " else "failed to create hard link "
  match ← spotOf name with
  | .error cause => refuse (title ++ quoted name) cause
  | .ok spot =>
    if spot.entry.isSome && !p.has 'f' then refuse (title ++ quoted name) .alreadyExists
    else if isSymbolic then
      setTree ((← get).tree.put spot.place (.link target.toPath))
      return true
    else
      match ← spotOf target with
      | .ok ⟨_, some .directory⟩ =>
        Task.complain (target.toText ++ ": hard link not allowed for directory")
        return false
      | .ok ⟨_, some entry⟩ =>
        setTree ((← get).tree.put spot.place entry)
        return true
      | .ok ⟨_, none⟩ => refuse ("failed to access " ++ quoted target) .noSuchEntry
      | .error cause => refuse ("failed to access " ++ quoted target) cause

/-- Makes links. -/
def run (p : Parsed) : Task Nat := do
  match p.value? 't', p.operands with
  | some directory, targets =>
    eachOperand targets fun target => make p target (within directory (lastName target))
  | none, [] => misuse 1 "missing file operand"
  | none, [only] => return if ← make p only (lastName only) then 0 else 1
  | none, [target, name] =>
    let asDirectory := !p.has 'T' && !(p.has 'n' && match ← spotOf name with
      | .ok ⟨_, some (.link _)⟩ => true
      | _ => false)
    if asDirectory && (← leadsToDirectory name) then
      return if ← make p target (within name (lastName target)) then 0 else 1
    else return if ← make p target name then 0 else 1
  | none, several =>
    let directory := several.getLast?.getD []
    if ← leadsToDirectory directory then
      eachOperand several.dropLast fun target => make p target (within directory (lastName target))
    else
      let _ ← refuse ("target " ++ quoted directory) .notDirectory
      return 1

end Link

/-! ## Removing -/

namespace Remove

def options : OptionTable :=
  ⟨"dfiIrRv",
    [("dir", 'd', .none), ("force", 'f', .none), ("recursive", 'r', .none),
      ("verbose", 'v', .none)], true⟩

/-- Removes what a path names. -/
def remove (p : Parsed) (name : Octets) : Task Bool := do
  let last := lastName name
  let recursive := p.has 'r' || p.has 'R'
  if recursive && (last = ['.'] || last = ['.', '.']) then
    Task.complain ("refusing to remove '.' or '..' directory: skipping " ++ quoted name)
    return false
  let title := "cannot remove " ++ quoted name
  let note (what : String) : Task Unit := do
    if p.has 'v' then Task.printLine (Octets.ofText (what ++ quoted name))
  match ← spotOf name with
  | .error cause =>
    if p.has 'f' && (cause = .noSuchEntry || cause = .notDirectory) then return true
    else refuse title cause
  | .ok ⟨_, none⟩ => if p.has 'f' then return true else refuse title .noSuchEntry
  | .ok ⟨place, some .directory⟩ =>
    if recursive || p.has 'd' && ((← get).tree.below place).isEmpty then
      setTree ((← get).tree.eraseAll place)
      note "removed directory "
      return true
    else if p.has 'd' then refuse title (.system 39)
    else refuse title .isDirectory
  | .ok ⟨_, some _⟩ =>
    match ← Task.change fun fs => fs.remove name.toPath with
    | none => note "removed "; return true
    | some cause => refuse title cause

/-- Removes files. -/
def run (p : Parsed) : Task Nat := do
  if p.operands.isEmpty then if p.has 'f' then return 0 else misuse 1 "missing operand"
  else eachOperand p.operands (remove p)

/-- Removes empty directories, and with an option those above them. -/
def runDirectories (p : Parsed) : Task Nat := do
  if p.operands.isEmpty then misuse 1 "missing operand"
  else
    eachOperand p.operands fun name => do
      let above := (List.range name.length).reverse.filterMap fun n =>
        if name[n]? = some '/' && n > 0 then some (name.take n) else none
      let mut succeeded := true
      for path in if p.has 'p' then name :: above else [name] do
        if succeeded then
          let title := "failed to remove " ++ (if path = name then "" else "directory ") ++ quoted path
          match ← spotOf path with
          | .error cause => succeeded ← refuse title cause
          | .ok ⟨_, none⟩ => succeeded ← refuse title .noSuchEntry
          | .ok ⟨place, some .directory⟩ =>
            if ((← get).tree.below place).isEmpty then setTree ((← get).tree.erase place)
            else succeeded ← refuse title (.system 39)
          | .ok _ => succeeded ← refuse title .notDirectory
      return succeeded

end Remove

/-! ## Copying and moving -/

/-- Does something from several sources to a target, which is a directory if there is more than one
source. -/
def eachToTarget (p : Parsed) (act : Octets → Octets → Task Bool) : Task Nat := do
  let intoDirectory (directory : Octets) (names : List Octets) : Task Nat :=
    eachOperand names fun name => act name (within directory (lastName name))
  match p.value? 't', p.operands with
  | some directory, names => intoDirectory directory names
  | none, [] => misuse 1 "missing file operand"
  | none, [only] => misuse 1 ("missing destination file operand after " ++ quoted only)
  | none, [source, target] =>
    if !p.has 'T' && (← leadsToDirectory target) then intoDirectory target [source]
    else return if ← act source target then 0 else 1
  | none, several =>
    let directory := several.getLast?.getD []
    if ← leadsToDirectory directory then intoDirectory directory several.dropLast
    else
      let cause : IoError := match ← targetOf directory with
        | .ok ⟨_, some _⟩ => .notDirectory
        | .ok ⟨_, none⟩ => .noSuchEntry
        | .error cause => cause
      let _ ← refuse ("target " ++ quoted directory) cause
      return 1

namespace Copy

def options : OptionTable :=
  ⟨"abdfHilLnPprRst:Tuvx",
    [("archive", 'a', .none), ("force", 'f', .none), ("no-clobber", 'n', .none),
      ("recursive", 'r', .none), ("target-directory", 't', .required),
      ("no-target-directory", 'T', .none), ("verbose", 'v', .none), ("preserve", 'p', .optional),
      ("dereference", 'L', .none), ("no-dereference", 'P', .none)], true⟩

/-- Copies what one path names to another. -/
def copy (p : Parsed) (source target : Octets) : Task Bool := do
  let recursive := ['r', 'R', 'a'].any p.has
  let follows := if ['a', 'P', 'd'].any p.has then false else p.has 'L' || !recursive
  match ← (if follows then targetOf source else spotOf source) with
  | .error cause => refuse ("cannot stat " ++ quoted source) cause
  | .ok ⟨_, none⟩ => refuse ("cannot stat " ++ quoted source) .noSuchEntry
  | .ok ⟨place, some .directory⟩ =>
    if !recursive then
      Task.complain ("-r not specified; omitting directory " ++ quoted source)
      return false
    match ← targetOf target with
    | .error cause => refuse ("cannot create directory " ++ quoted target) cause
    | .ok ⟨other, found⟩ =>
      if place.isPrefixOf other then
        Task.complain ("cannot copy a directory, " ++ quoted source ++ ", into itself, " ++ quoted target)
        return false
      match found with
      | some .directory | none =>
        setTree ((← get).tree.duplicate place other)
        return true
      | some _ =>
        Task.complain ("cannot overwrite non-directory " ++ quoted target ++ " with directory "
          ++ quoted source)
        return false
  | .ok ⟨place, some (.link path)⟩ =>
    match ← spotOf target with
    | .error cause => refuse ("cannot create symbolic link " ++ quoted target) cause
    | .ok ⟨other, found⟩ =>
      if place = other then
        Task.complain (quoted source ++ " and " ++ quoted target ++ " are the same file")
        return false
      else if found = some .directory then
        Task.complain ("cannot overwrite directory " ++ quoted target ++ " with non-directory")
        return false
      else
        setTree ((← get).tree.put other (.link path))
        return true
  | .ok ⟨place, some (.file content executable)⟩ =>
    let isDevice := ((← Task.files).devices.lookup place).isSome
    let content := if isDevice then [] else content
    match ← targetOf target with
    | .error cause => refuse ("cannot create regular file " ++ quoted target) cause
    | .ok ⟨_, some .directory⟩ =>
      Task.complain ("cannot overwrite directory " ++ quoted target ++ " with non-directory " ++ quoted source)
      return false
    | .ok ⟨other, found⟩ =>
      if place = other then
        Task.complain (quoted source ++ " and " ++ quoted target ++ " are the same file")
        return false
      else if p.has 'n' && found.isSome then return true
      else
        let dangling := found.isNone && (match ← spotOf target with
          | .ok ⟨_, some (.link _)⟩ => true
          | _ => false)
        if dangling then
          Task.complain ("not writing through dangling symlink " ++ quoted target)
          return false
        let isExecutable := match found with
          | some (.file _ old) => if p.has 'p' || p.has 'a' then executable else old
          | _ => executable
        let result ← Task.change fun fs =>
          (fs.writable target.toPath).bind fun spot => fs.fill spot content isExecutable
        match result with
        | none =>
          if p.has 'v' then Task.printLine (Octets.ofText (quoted source ++ " -> " ++ quoted target))
          return true
        | some cause => refuse ("cannot create regular file " ++ quoted target) cause

/-- Copies files. -/
def run (p : Parsed) : Task Nat := eachToTarget p (copy p)

end Copy

namespace Move

def options : OptionTable :=
  ⟨"bfint:Tuv",
    [("force", 'f', .none), ("no-clobber", 'n', .none), ("target-directory", 't', .required),
      ("no-target-directory", 'T', .none), ("verbose", 'v', .none)], true⟩

/-- Moves what one path names to another. -/
def move (p : Parsed) (source target : Octets) : Task Bool := do
  match ← spotOf source with
  | .error cause => refuse ("cannot stat " ++ quoted source) cause
  | .ok ⟨_, none⟩ => refuse ("cannot stat " ++ quoted source) .noSuchEntry
  | .ok ⟨place, some entry⟩ =>
    let title := "cannot move " ++ quoted source ++ " to " ++ quoted target
    match ← spotOf target with
    | .error cause => refuse title cause
    | .ok ⟨other, found⟩ =>
      if place = other then
        Task.complain (quoted source ++ " and " ++ quoted target ++ " are the same file")
        return false
      else if entry = .directory && place.isPrefixOf other then
        Task.complain ("cannot move " ++ quoted source ++ " to a subdirectory of itself, " ++ quoted target)
        return false
      else if found.isSome && p.has 'n' then return true
      else
        match entry, found with
        | .directory, some .directory =>
          if ((← get).tree.below other).isEmpty then
            setTree ((← get).tree.move place other)
            return true
          else refuse title (.system 39)
        | .directory, some _ =>
          Task.complain ("cannot overwrite non-directory " ++ quoted target ++ " with directory "
            ++ quoted source)
          return false
        | _, some .directory =>
          Task.complain ("cannot overwrite directory " ++ quoted target ++ " with non-directory")
          return false
        | .directory, none =>
          setTree ((← get).tree.move place other)
          return true
        | _, _ =>
          if target.getLast? = some '/' then refuse title .notDirectory
          else
            setTree ((← get).tree.move place other)
            if p.has 'v' then
              Task.printLine (Octets.ofText ("renamed " ++ quoted source ++ " -> " ++ quoted target))
            return true

/-- Moves files. -/
def run (p : Parsed) : Task Nat := eachToTarget p (move p)

end Move

/-! ## Modes -/

namespace ChangeMode

def options : OptionTable :=
  ⟨"cfRv", [("recursive", 'R', .none), ("verbose", 'v', .none), ("silent", 'f', .none)], false⟩

/-- Whether a file can be run after its mode has been changed, if the change can be understood. -/
def apply (mode : Octets) (old : Bool) : Option Bool :=
  match Number.natOfDigits? 8 mode with
  | some n => if n < 4096 * 8 then some (n % 2 = 1 || n / 8 % 2 = 1 || n / 64 % 2 = 1) else none
  | none =>
    (mode.splitOn ',').foldlM (fun (state : Bool) clause =>
      let who := clause.takeWhile "ugoa".toList.contains
      match clause.drop who.length with
      | sign :: letters =>
        if !letters.all "rwxXstugo".toList.contains then none
        else
          let touches := letters.contains 'x' || letters.contains 'X' && state
          match sign with
          | '+' => some (state || touches)
          | '-' => some (if touches && (who.isEmpty || who.contains 'a' || who.length = 3) then false
            else state)
          | '=' => some touches
          | _ => none
      | [] => none) old

/-- Changes whether files can be run. -/
def run (arguments : List Octets) : Task Nat := do
  let flags := arguments.takeWhile fun a =>
    a.head? = some '-' && a.length > 1 && (a.drop 1).all "cfRv-".toList.contains
  match arguments.drop flags.length with
  | [] => misuse 1 "missing operand"
  | [mode] => misuse 1 ("missing operand after " ++ quoted mode)
  | mode :: names =>
    if (apply mode false).isNone then misuse 1 ("invalid mode: " ++ quoted mode)
    else
      eachOperand names fun name => do
        match ← targetOf name with
        | .error cause => refuse ("cannot access " ++ quoted name) cause
        | .ok ⟨_, none⟩ => refuse ("cannot access " ++ quoted name) .noSuchEntry
        | .ok ⟨place, some (.file content executable)⟩ =>
          let tree := (← get).tree
          setTree (tree.put place (.file content ((apply mode executable).getD executable)))
          return true
        | .ok _ => return true

end ChangeMode

/-! ## Links and paths -/

/-- The path of a location. -/
def locationPath (place : Location) : Octets := '/' :: ['/'].intercalate (place.map Octets.ofText)

namespace ReadLink

def options : OptionTable :=
  ⟨"efmnqsvz",
    [("canonicalize", 'f', .none), ("canonicalize-existing", 'e', .none),
      ("canonicalize-missing", 'm', .none), ("no-newline", 'n', .none)], true⟩

/-- The path from the root that a path leads to. The last name need not exist, or with `lenient` any of
them. -/
def canonical (lenient existing : Bool) (name : Octets) : Task (Except IoError Octets) := do
  match ← targetOf name with
  | .ok ⟨place, entry⟩ =>
    if existing && entry.isNone then return .error .noSuchEntry
    else return .ok (locationPath place)
  | .error cause =>
    if lenient then
      let fs ← Task.files
      return .ok (Octets.ofText (fs.absolutize name.toPath).text)
    else
      match ← targetOf (name.reverse.dropWhile (· = '/')).reverse with
      | .ok ⟨place, none⟩ => if existing then return .error cause else return .ok (locationPath place)
      | _ => return .error cause

/-- Tells what links stand for. -/
def run (p : Parsed) : Task Nat := do
  if p.operands.isEmpty then misuse 1 "missing operand"
  else
    eachOperand p.operands fun name => do
      let found : Except IoError Octets ←
        if ['e', 'f', 'm'].any p.has then canonical (p.has 'm') (p.has 'e') name
        else
          match ← spotOf name with
          | .ok ⟨_, some (.link target)⟩ => pure (.ok (Octets.ofText target.text))
          | .ok ⟨_, some _⟩ => pure (.error (.system 22))
          | .ok ⟨_, none⟩ => pure (.error .noSuchEntry)
          | .error cause => pure (.error cause)
      match found with
      | .ok path =>
        Task.print (path ++ if p.has 'n' && p.operands.length = 1 then [] else ['\n'])
        return true
      | .error cause =>
        if p.has 'v' then Task.complain (shown name ++ ": " ++ cause.plainMessage)
        return false

/-- Tells the paths from the root. -/
def runReal (p : Parsed) : Task Nat := do
  if p.operands.isEmpty then misuse 1 "missing operand"
  else
    eachOperand p.operands fun name => do
      match ← canonical (p.has 'm') (p.has 'e') name with
      | .ok path => Task.printLine path; return true
      | .error cause => refuse (shown name) cause

end ReadLink

/-! ## Lists -/

namespace ListFiles

def options : OptionTable :=
  ⟨"1aAbBcCdfFghGHiIklLmnNopqQrRsStTuUvwxXZ",
    [("all", 'a', .none), ("almost-all", 'A', .none), ("directory", 'd', .none),
      ("recursive", 'R', .none), ("reverse", 'r', .none), ("classify", 'F', .optional),
      ("color", 'Y', .optional)], true⟩

/-- A name with a sign for what it stands for, if that is asked for. -/
def marked (p : Parsed) (name : Octets) (entry : Option Entry) : Octets :=
  let sign := match entry with
    | some .directory => if p.has 'F' || p.has 'p' then ['/'] else []
    | some (.link _) => if p.has 'F' then ['@'] else []
    | some (.file _ true) => if p.has 'F' then ['*'] else []
    | _ => []
  name ++ sign

/-- Names in the order in which they are listed. -/
def ordered (p : Parsed) (names : List Octets) : List Octets :=
  let sorted := names.mergeSort Octets.precedes
  if p.has 'r' then sorted.reverse else sorted

/-- The names in a directory that are listed. -/
def namesIn (p : Parsed) (tree : FileTree) (place : Location) : List Octets :=
  let names := (tree.names place).map Octets.ofText
  let names := if p.has 'a' then ['.'] :: ['.', '.'] :: names
    else if p.has 'A' then names
    else names.filter (·.head? ≠ some '.')
  ordered p names

/-- Writes what stands in a directory, and with an option in those below it. `fuel` bounds their
depth. -/
def writeDirectory (p : Parsed) (titled : Bool) : Nat → Bool → Octets → Location → Task Unit
  | 0, _, _, _ => pure ()
  | fuel + 1, isFirst, title, place => do
    if !isFirst then Task.printLine []
    if titled then Task.printLine (title ++ [':'])
    let tree := (← get).tree
    let names := namesIn p tree place
    let entryOf (name : Octets) : Option Entry :=
      if name = ['.'] || name = ['.', '.'] then some .directory else tree.get? (place ++ [name.toText])
    for name in names do
      Task.printLine (marked p name (entryOf name))
    if p.has 'R' then
      for name in names do
        if name ≠ ['.'] && name ≠ ['.', '.'] && entryOf name = some .directory then
          writeDirectory p titled fuel false (within title name) (place ++ [name.toText])

/-- Lists files. -/
def run (p : Parsed) : Task Nat := do
  let names := if p.operands.isEmpty then [['.']] else p.operands
  let mut files : List Octets := []
  let mut directories : List (Octets × Location) := []
  let mut status := 0
  for name in ordered p names do
    let found ← targetOf name
    let found ← match found with
      | .ok ⟨_, some _⟩ => pure found
      | _ => spotOf name
    match found with
    | .error cause =>
      Task.complain ("cannot access " ++ quoted name ++ ": " ++ cause.plainMessage)
      status := 2
    | .ok ⟨_, none⟩ =>
      Task.complain ("cannot access " ++ quoted name ++ ": " ++ IoError.noSuchEntry.plainMessage)
      status := 2
    | .ok ⟨place, some entry⟩ =>
      if entry = .directory && !p.has 'd' then directories := directories ++ [(name, place)]
      else files := files ++ [marked p name (some entry)]
  files.forM Task.printLine
  let titled := names.length > 1 || p.has 'R'
  let mut isFirst := files.isEmpty
  for (name, place) in directories do
    writeDirectory p titled 64 isFirst name place
    isFirst := false
  return status

end ListFiles

/-! ## Output to files -/

namespace Tee

def options : OptionTable :=
  ⟨"aip", [("append", 'a', .none), ("ignore-interrupts", 'i', .none)], true⟩

/-- Writes the input to the output and to files. -/
def run (p : Parsed) : Task Nat := do
  let text := (← Task.readAll 0).toOption.getD []
  Task.print text
  eachOperand p.operands fun name => do
    match ← Task.openFile (if p.has 'a' then .append else .write) name with
    | .error cause => refuse (shown name) cause
    | .ok index =>
      let (result, h) := (← get).write index text
      set h
      match result with
      | .ok () => return true
      | .error cause => refuse (shown name) cause

end Tee

end Utility

end CallbackWeave

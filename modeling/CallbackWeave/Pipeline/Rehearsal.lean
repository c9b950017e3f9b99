import CallbackWeave.Pipeline.World

/-!
Rehearsals of a run: the tools are not started but played. Each stage has an act that writes what
the tool would write, with a comment on top that tells the tool; rules make single calls fail,
leave their act out, or change further files.
-/

namespace CallbackWeave

/-- How calls of one stage are played differently. -/
structure Rule where
  stage : Stage
  /-- A text that has to occur in an argument of the call. -/
  occurring : Option String
  /-- How often the rule may still be used; `none` sets no limit. -/
  left : Option Nat
  /-- The program cannot be started. -/
  refusesStart : Bool
  /-- The act of the stage is performed. -/
  acts : Bool
  /-- Directories to make. -/
  directories : List Path
  /-- Files to write. -/
  files : List (Path × Bytes)
  /-- Files to remove. -/
  removals : List Path
  code : Option Int
deriving DecidableEq, Repr

namespace Rule

/-- Whether a text occurs in another one. -/
def occursIn (part : List Char) : List Char → Bool
  | [] => part.isEmpty
  | c :: rest => part.isPrefixOf (c :: rest) || occursIn part rest

/-- Whether a rule is for a call. -/
def covers (r : Rule) (i : Invocation) : Bool :=
  r.stage = i.stage && r.left ≠ some 0
    && (r.occurring.all fun part => i.arguments.any fun a => occursIn part.toList a.toList)

/-- The rule for a call, with the rules as they are after its use. -/
def take? (i : Invocation) : List Rule → Option (Rule × List Rule)
  | [] => none
  | r :: rest =>
    if r.covers i then some (r, { r with left := r.left.map (· - 1) } :: rest)
    else (take? i rest).map fun (found, rest) => (found, r :: rest)

end Rule

namespace Rehearsal

/-- The content of a file that is named by an argument. -/
def readArgument (fs : FileSystem) (i : Invocation) (index : Nat) : Except IoError Bytes :=
  match i.arguments[index]? with
  | some argument => fs.read ⟨argument⟩
  | none => .error .noSuchEntry

/-- Writes a line of comment and the content of some files to a file; all are named by arguments. -/
def compose (fs : FileSystem) (i : Invocation) (target : Nat) (comment : String)
    (sources : List Nat) : Except IoError FileTree := do
  let contents ← sources.mapM (readArgument fs i)
  match i.arguments[target]? with
  | some argument =>
    fs.write ⟨argument⟩ (Utf8.encode ("/* " ++ comment ++ " */\n") ++ contents.flatten)
  | none => throw .noSuchEntry

/-- The act of a stage. `flags` is the number of options that make a compiler preprocess only. -/
def act (flags : Nat) (fs : FileSystem) (i : Invocation) : Except IoError FileTree :=
  match i.stage with
  | .annotate => compose fs i 1 "annotated" [2]
  | .expand => compose fs i (flags + 2) "expanded" [flags]
  | .merge => compose fs i 2 "merged" [0, 1]
  | .instrument => compose fs i 3 "instrumented" [4]
  | _ => .ok fs.tree

/-- Makes changes one after another; the first that is refused ends them, and those before it
stay. -/
def inTurn {α : Type} (change : FileTree → α → Except IoError FileTree) :
    FileTree → List α → Except IoError Unit × FileTree
  | tree, [] => (.ok (), tree)
  | tree, a :: rest =>
    match change tree a with
    | .ok tree => inTurn change tree rest
    | .error cause => (.error cause, tree)

/-- A change that a rule asks for. -/
inductive Deed where
  | act
  | makeDirectory (path : Path)
  | write (path : Path) (content : Bytes)
  | remove (path : Path)

/-- The changes that a rule asks for, in order. -/
def deeds (r : Rule) : List Deed :=
  (if r.acts then [.act] else []) ++ r.directories.map .makeDirectory
    ++ r.files.map (fun (path, content) => .write path content) ++ r.removals.map .remove

/-- Makes a change. The paths of a rule are seen from the working directory, which the empty path
names. -/
def perform (flags : Nat) (site : Site) (i : Invocation) (tree : FileTree) (deed : Deed) :
    Except IoError FileTree :=
  let fs : FileSystem := ⟨site, tree⟩
  match deed with
  | .act => act flags fs i
  | .makeDirectory path => fs.makeDirectories (fs.workingPath.join path)
  | .write path content => fs.write (fs.workingPath.join path) content
  | .remove path => fs.remove (fs.workingPath.join path)

/-- Plays a call by the first rule for it, or by its act alone. -/
def play (flags : Nat) (site : Site) : Runner (List Rule) := fun rules i tree =>
  let (deeds, code, refuses, rules) := match Rule.take? i rules with
    | some (r, rules) => (deeds r, r.code, r.refusesStart, rules)
    | none => ([.act], some 0, false, rules)
  if refuses then (.error (.spawn i.program .noSuchEntry), rules, tree)
  else
    match inTurn (perform flags site i) tree deeds with
    | (.ok (), tree) => (.ok ⟨code⟩, rules, tree)
    | (.error cause, tree) => (.error (.io cause), rules, tree)

end Rehearsal

end CallbackWeave

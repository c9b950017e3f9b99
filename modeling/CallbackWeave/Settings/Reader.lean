import CallbackWeave.Failure
import CallbackWeave.FileTree.FileSystem
import CallbackWeave.Settings
import CallbackWeave.Yaml.Plain

/-!
Settings in YAML. A document is a mapping of two sections, each a mapping of fields; what is left
out keeps its standard value, and unknown keys are passed over. Whatever is wrong first in the
text is what is told.
-/

namespace CallbackWeave.Settings

open Yaml (Node Document)

/-- A part of the way from the root of a document to a node. -/
inductive Segment where
  | key (name : String)
  | index (n : Nat)
  /-- The value of a key that is a reference. -/
  | unnamed
deriving DecidableEq, Repr

/-- The text of a way with one part more. -/
def extendPath (text : String) : Segment → String
  | .key name => (if text.isEmpty then "" else text ++ ".") ++ name
  | .index n => text ++ "[" ++ toString n ++ "]"
  | .unnamed => (if text.isEmpty then "" else text ++ ".") ++ "?"

/-- Why a text does not hold settings. -/
inductive TextFault where
  /-- It is no YAML. -/
  | malformed (fault : Yaml.Fault)
  /-- The node at the end of a way is not what it has to be. -/
  | misfit (way : List Segment) (problem : String) (mark : Yaml.Mark)

/-- The text of a fault. -/
def TextFault.message : TextFault → String
  | malformed fault => fault.message
  | misfit way problem mark =>
    let text := way.foldl extendPath ""
    (if text.isEmpty then "" else text ++ ": ") ++ problem ++ mark.suffix

/-- A reader of nodes of a document, which it reaches on a way. -/
abbrev NodeReader (α : Type) := Document → List Segment → Node → Except TextFault α

/-- The fault of a document that is cut. -/
def cutFault (d : Document) : TextFault := .malformed (d.fault.getD ⟨"end of text", .origin, none⟩)

/-- The node that a node stands for. -/
def follow (d : Document) : Node → Node
  | .reference _ anchor => (d.target? anchor).getD .cut
  | node => node

/-- The fault of a node that is not what was expected. -/
def misfit (d : Document) (way : List Segment) (node : Node) (expected : String) : TextFault :=
  match node with
  | .cut => cutFault d
  | node => .misfit way (node.misfit expected) node.mark

/-- Reads a text, which any scalar is. -/
def readText (expected : String) : NodeReader String := fun d way node =>
  match follow d node with
  | .scalar _ _ _ text _ => .ok text
  | node => .error (misfit d way node expected)

/-- Reads a truth value. -/
def readBoolean : NodeReader Bool := fun d way node =>
  match (follow d node).boolean? with
  | some value => .ok value
  | none => .error (misfit d way (follow d node) "a boolean")

/-- Reads texts, the first of which has an index. -/
def readItems (d : Document) (way : List Segment) : Nat → List Node → Except TextFault (List String)
  | _, [] => .ok []
  | n, item :: rest => do
    let first ← readText "a string" d (way ++ [.index n]) item
    let rest ← readItems d way (n + 1) rest
    return first :: rest

/-- Reads a list of texts. A value that is left out is an empty list. -/
def readTexts : NodeReader (List String) := fun d way node =>
  match follow d node with
  | .sequence _ _ items => readItems d way 0 items
  | .scalar mark anchor tag text style =>
    if text.isEmpty && style == .plain then .ok []
    else .error (misfit d way (.scalar mark anchor tag text style) "a sequence")
  | node => .error (misfit d way node "a sequence")

/-- A field of a record: its key, and how its value changes the record. -/
structure Field (α : Type) where
  key : String
  read : α → NodeReader α

/-- The field that a value of some type sets. -/
def Field.of {α β : Type} (key : String) (reader : NodeReader β) (set : α → β → α) : Field α :=
  ⟨key, fun record d way node => (reader d way node).map (set record)⟩

/-- Reads the members of a record that begins at a mark; `seen` are the keys of the fields that
have been read. -/
def readMembers {α : Type} (fields : List (Field α)) (d : Document) (way : List Segment)
    (mark : Yaml.Mark) : List String → α → List (Node × Node) → Except TextFault α
  | _, record, [] => .ok record
  | seen, record, (key, value) :: rest => do
    let name ← readText "field identifier" d way key
    match fields.find? (·.key = name) with
    | none =>
      if Yaml.isWhole value then readMembers fields d way mark seen record rest
      else throw (cutFault d)
    | some field =>
      if seen.contains name then throw (.misfit way ("duplicate field `" ++ name ++ "`") mark)
      let segment := match key with
        | .scalar _ _ _ text _ => Segment.key text
        | _ => .unnamed
      let record ← field.read record d (way ++ [segment]) value
      readMembers fields d way mark (name :: seen) record rest

/-- Reads a record. A value that is left out changes nothing. -/
def readRecord {α : Type} (expected : String) (fields : List (Field α)) (start : α) :
    NodeReader α := fun d way node =>
  match follow d node with
  | .mapping mark _ members => readMembers fields d way mark [] start members
  | .scalar mark anchor tag text style =>
    if text.isEmpty && style == .plain then .ok start
    else .error (misfit d way (.scalar mark anchor tag text style) expected)
  | node => .error (misfit d way node expected)

/-- The fields of the pipeline. -/
def pipelineFields : List (Field PipelineSettings) :=
  [.of "annotate_tool" (readText "a string") fun s v => { s with annotateTool := v },
    .of "merge_tool" (readText "a string") fun s v => { s with mergeTool := v },
    .of "instrument_tool" (readText "a string") fun s v => { s with instrumentTool := v },
    .of "preprocess_flags" readTexts fun s v => { s with preprocessFlags := v }]

/-- The fields of the filter. -/
def filterFields : List (Field FilterSettings) :=
  [.of "source_extensions" readTexts fun s v => { s with sourceExtensions := v },
    .of "pseudo_headers" readTexts fun s v => { s with pseudoHeaders := v },
    .of "expand_headers" readBoolean fun s v => { s with expandHeaders := v }]

/-- The sections of the settings. -/
def sections : List (Field Settings) :=
  [.of "pipeline" (readRecord "struct PipelineConfig" pipelineFields .standard)
      fun s v => { s with pipeline := v },
    .of "filter" (readRecord "struct FilterConfig" filterFields .standard)
      fun s v => { s with filter := v }]

/-- Reads settings. A text without a document holds the standard settings. -/
def ofText (text : String) : Except TextFault Settings :=
  let d := Document.ofText text.toList
  match d.root with
  | none => .ok .standard
  | some root => do
    let settings ← readRecord "struct Config" sections .standard d [] root
    match d.fault with
    | some fault => throw (.malformed fault)
    | none => return settings

/-- Reads a settings file. -/
def load (fs : FileSystem) (path : Path) : Except Failure Settings :=
  match fs.readText path with
  | .error cause => .error (.pathIo path cause)
  | .ok text =>
    match ofText text with
    | .ok settings => .ok settings
    | .error fault => .error (.settings (.unreadable path fault.message))

end CallbackWeave.Settings

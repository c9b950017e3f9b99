import CallbackWeave.Yaml.Lexer

/-!
From the tokens of a YAML text to its events: the beginnings and ends of documents and
collections, the scalars, and the references to earlier nodes. A node that is left out becomes an
empty plain scalar.
-/

namespace CallbackWeave.Yaml

/-- What a node may be given in front of it. -/
structure Properties where
  anchor : Option String
  tag : Option String
deriving DecidableEq, Repr

/-- What an event is. -/
inductive EventKind where
  | streamEnd
  | documentStart
  | documentEnd
  | alias (name : String)
  | scalar (properties : Properties) (text : String) (style : Style)
  | sequenceStart (properties : Properties)
  | sequenceEnd
  | mappingStart (properties : Properties)
  | mappingEnd
deriving DecidableEq, Repr

/-- An event and where it begins. -/
structure Event where
  kind : EventKind
  mark : Mark
deriving Repr

/-- What may come next. -/
inductive Expectation where
  | implicitDocument
  | document
  | documentContent
  | documentEnd
  | blockNode
  | blockSequenceFirst
  | blockSequenceEntry
  | indentlessEntry
  | blockMappingFirst
  | blockMappingKey
  | blockMappingValue
  | flowSequenceFirst
  | flowSequenceEntry
  | pairKey
  | pairValue
  | pairEnd
  | flowMappingFirst
  | flowMappingKey
  | flowMappingValue
  | flowMappingEmptyValue
  | nothing
deriving DecidableEq, Repr

/-- A parse under way. -/
structure Parser where
  tokens : List Token
  /-- The fault that ends the tokens early. -/
  fault : Option Fault
  expectation : Expectation
  /-- What may come after the collections that are open. -/
  returns : List Expectation
  /-- Where the collections that are open begin. -/
  marks : List Mark
  /-- What the handles of tags stand for. -/
  handles : List (String × String)

namespace Parser

/-- The next token. -/
def peek (p : Parser) : Except Fault Token :=
  match p.tokens, p.fault with
  | token :: _, _ => .ok token
  | [], some fault => .error fault
  | [], none => .error ⟨"unexpected end of stream", .origin, none⟩

/-- The parse after the next token. -/
def skip (p : Parser) : Parser := { p with tokens := p.tokens.drop 1 }

/-- The parse with another expectation. -/
def awaiting (p : Parser) (expectation : Expectation) : Parser :=
  { p with expectation := expectation }

/-- The parse after a node, which something else follows in the end. -/
def pushing (p : Parser) (expectation : Expectation) : Parser :=
  { p with returns := expectation :: p.returns }

/-- The parse after the end of a node. -/
def returning (p : Parser) : Parser :=
  { p with expectation := p.returns.headD .nothing, returns := p.returns.drop 1 }

/-- The parse after the beginning of a collection. -/
def opening (p : Parser) (mark : Mark) : Parser := { p with marks := mark :: p.marks }

/-- The parse after the end of a collection. -/
def closing (p : Parser) : Parser := { p.returning with marks := p.marks.drop 1 }

/-- An event with the parse after it. -/
abbrev Step := Except Fault (Event × Parser)

/-- A node that is left out. -/
def emptyScalar (p : Parser) (mark : Mark) : Step :=
  .ok (⟨.scalar ⟨none, none⟩ "" .plain, mark⟩, p)

/-- The handles that need no directive. -/
def standardHandles : List (String × String) := [("!", "!"), ("!!", "tag:yaml.org,2002:")]

/-- Takes directives. `version` says that there has been one for the version. `fuel` bounds their
number. -/
def directives : Nat → Bool → Parser → Except Fault Parser
  | 0, _, p => .ok p
  | fuel + 1, version, p => do
    let token ← p.peek
    match token.kind with
    | .versionDirective major minor =>
      if version then throw ⟨"found duplicate %YAML directive", token.start, none⟩
      if major ≠ 1 ∨ (minor ≠ 1 ∧ minor ≠ 2) then
        throw ⟨"found incompatible YAML document", token.start, none⟩
      directives fuel true p.skip
    | .tagDirective handle lead =>
      if (p.handles.lookup handle).isSome then
        throw ⟨"found duplicate %TAG directive", token.start, none⟩
      directives fuel version { p.skip with handles := p.handles ++ [(handle, lead)] }
    | _ => return { p with handles := p.handles ++ standardHandles }

/-- Passes over marks of the end of a document. -/
def skipDocumentEnds (p : Parser) : Parser :=
  { p with tokens := p.tokens.dropWhile fun token => token.kind == .documentEnd }

/-- The beginning of a document, or the end of the text. -/
def documentStart (p : Parser) (implicit : Bool) : Step := do
  let p := if implicit then p else p.skipDocumentEnds
  let token ← p.peek
  match token.kind with
  | .streamEnd => return (⟨.streamEnd, token.start⟩, p.skip.awaiting .nothing)
  | .versionDirective _ _ | .tagDirective _ _ | .documentStart =>
    let p ← directives (p.tokens.length + 1) false { p with handles := [] }
    let token ← p.peek
    if token.kind ≠ .documentStart then
      throw ⟨"did not find expected <document start>", token.start, none⟩
    return (⟨.documentStart, token.start⟩,
      (p.skip.pushing .documentEnd).awaiting .documentContent)
  | _ =>
    if !implicit then throw ⟨"did not find expected <document start>", token.start, none⟩
    let p := { p with handles := standardHandles }
    return (⟨.documentStart, token.start⟩, (p.pushing .documentEnd).awaiting .blockNode)

/-- The end of a document. -/
def documentEnd (p : Parser) : Step := do
  let token ← p.peek
  let p := if token.kind = .documentEnd then p.skip else p
  return (⟨.documentEnd, token.start⟩, { p with handles := [] }.awaiting .document)

/-- The tag that a handle and a suffix stand for. -/
def resolveTag (p : Parser) (start mark : Mark) (handle suffix : String) :
    Except Fault String :=
  if handle.isEmpty then .ok suffix
  else
    match p.handles.lookup handle with
    | some lead => .ok (lead ++ suffix)
    | none =>
      .error ⟨"found undefined tag handle", mark, some ("while parsing a node", start)⟩

/-- Takes the anchor and the tag in front of a node, in either order. -/
def properties (p : Parser) : Except Fault (Properties × Mark × Parser) := do
  let first ← p.peek
  let start := first.start
  match first.kind with
  | .anchor name =>
    let second ← p.skip.peek
    match second.kind with
    | .tag handle suffix =>
      let next := p.skip.skip
      let _ ← next.peek
      return (⟨some name, some (← p.resolveTag start second.start handle suffix)⟩, start, next)
    | _ => return (⟨some name, none⟩, start, p.skip)
  | .tag handle suffix =>
    let second ← p.skip.peek
    match second.kind with
    | .anchor name =>
      let next := p.skip.skip
      let _ ← next.peek
      return (⟨some name, some (← p.resolveTag start start handle suffix)⟩, start, next)
    | _ => return (⟨none, some (← p.resolveTag start start handle suffix)⟩, start, p.skip)
  | _ => return (⟨none, none⟩, start, p)

/-- A scalar. The tag that stands for no tag is dropped. -/
def scalar (p : Parser) (given : Properties) (start : Mark) (text : String) (style : Style) :
    Step :=
  let tag := if given.tag = some "!" then none else given.tag
  .ok (⟨.scalar { given with tag := tag } text style, start⟩, p.skip.returning)

/-- The beginning of a node. `block` says that it may be a block, and `indentless` that entries may
follow without an indentation of their own. -/
def node (p : Parser) (block indentless : Bool) : Step := do
  let first ← p.peek
  if let .alias name := first.kind then
    return (⟨.alias name, first.start⟩, p.skip.returning)
  let (given, start, p) ← p.properties
  let token ← p.peek
  let sequence : Event := ⟨.sequenceStart given, start⟩
  let mapping : Event := ⟨.mappingStart given, start⟩
  match token.kind with
  | .scalar text style => p.scalar given start text style
  | .flowSequenceStart => return (sequence, p.awaiting .flowSequenceFirst)
  | .flowMappingStart => return (mapping, p.awaiting .flowMappingFirst)
  | kind =>
    if indentless && kind == .blockEntry then return (sequence, p.awaiting .indentlessEntry)
    if block && kind == .blockSequenceStart then
      return (sequence, p.awaiting .blockSequenceFirst)
    if block && kind == .blockMappingStart then return (mapping, p.awaiting .blockMappingFirst)
    if given.anchor.isSome || given.tag.isSome then
      return (⟨.scalar given "" .plain, start⟩, p.returning)
    let activity :=
      if block then "while parsing a block node" else "while parsing a flow node"
    throw ⟨"did not find expected node content", token.start, some (activity, start)⟩

/-- The fault of a collection that neither goes on nor ends. -/
def unended (p : Parser) (token : Token) (activity problem : String) : Fault :=
  ⟨problem, token.start, some (activity, p.marks.headD .origin)⟩

/-- The next entry of a block, or its end. -/
def blockSequenceEntry (p : Parser) : Step := do
  let token ← p.peek
  match token.kind with
  | .blockEntry =>
    let p := p.skip
    let next ← p.peek
    if next.kind ≠ .blockEntry ∧ next.kind ≠ .blockEnd then
      (p.pushing .blockSequenceEntry).node true false
    else (p.awaiting .blockSequenceEntry).emptyScalar token.finish
  | .blockEnd => return (⟨.sequenceEnd, token.start⟩, p.skip.closing)
  | _ =>
    throw (p.unended token "while parsing a block collection"
      "did not find expected '-' indicator")

/-- The next entry of a sequence without an indentation of its own, or its end. -/
def indentlessEntry (p : Parser) : Step := do
  let token ← p.peek
  if token.kind = .blockEntry then
    let p := p.skip
    let next ← p.peek
    if [.blockEntry, .key, .value, .blockEnd].contains next.kind then
      (p.awaiting .indentlessEntry).emptyScalar token.finish
    else (p.pushing .indentlessEntry).node true false
  else return (⟨.sequenceEnd, token.start⟩, p.returning)

/-- The next key of a block, or its end. -/
def blockMappingKey (p : Parser) : Step := do
  let token ← p.peek
  match token.kind with
  | .key =>
    let p := p.skip
    let next ← p.peek
    if [.key, .value, .blockEnd].contains next.kind then
      (p.awaiting .blockMappingValue).emptyScalar token.finish
    else (p.pushing .blockMappingValue).node true true
  | .blockEnd => return (⟨.mappingEnd, token.start⟩, p.skip.closing)
  | _ => throw (p.unended token "while parsing a block mapping" "did not find expected key")

/-- The value of a key of a block. -/
def blockMappingValue (p : Parser) : Step := do
  let token ← p.peek
  if token.kind = .value then
    let p := p.skip
    let next ← p.peek
    if [.key, .value, .blockEnd].contains next.kind then
      (p.awaiting .blockMappingKey).emptyScalar token.finish
    else (p.pushing .blockMappingKey).node true true
  else (p.awaiting .blockMappingKey).emptyScalar token.start

/-- Takes the comma in front of an entry that is not the first. -/
def comma (p : Parser) (first : Bool) (finish : TokenKind) (activity problem : String) :
    Except Fault Parser := do
  let token ← p.peek
  if first || token.kind == finish then return p
  if token.kind ≠ .flowEntry then throw (p.unended token activity problem)
  return p.skip

/-- The next entry of a bracketed sequence, or its end. -/
def flowSequenceEntry (p : Parser) (first : Bool) : Step := do
  let p ← p.comma first .flowSequenceEnd "while parsing a flow sequence"
    "did not find expected ',' or ']'"
  let token ← p.peek
  match token.kind with
  | .key => return (⟨.mappingStart ⟨none, none⟩, token.start⟩, p.skip.awaiting .pairKey)
  | .flowSequenceEnd => return (⟨.sequenceEnd, token.start⟩, p.skip.closing)
  | _ => (p.pushing .flowSequenceEntry).node false false

/-- The key of a pair in a bracketed sequence. -/
def pairKey (p : Parser) : Step := do
  let token ← p.peek
  if [.value, .flowEntry, .flowSequenceEnd].contains token.kind then
    (p.skip.awaiting .pairValue).emptyScalar token.finish
  else (p.pushing .pairValue).node false false

/-- The value of a pair in a bracketed sequence. -/
def pairValue (p : Parser) : Step := do
  let token ← p.peek
  if token.kind = .value then
    let p := p.skip
    let next ← p.peek
    if [.flowEntry, .flowSequenceEnd].contains next.kind then
      (p.awaiting .pairEnd).emptyScalar next.start
    else (p.pushing .pairEnd).node false false
  else (p.awaiting .pairEnd).emptyScalar token.start

/-- The end of a pair in a bracketed sequence. -/
def pairEnd (p : Parser) : Step := do
  let token ← p.peek
  return (⟨.mappingEnd, token.start⟩, p.awaiting .flowSequenceEntry)

/-- The next key of a bracketed mapping, or its end. -/
def flowMappingKey (p : Parser) (first : Bool) : Step := do
  let p ← p.comma first .flowMappingEnd "while parsing a flow mapping"
    "did not find expected ',' or '\x7d'"
  let token ← p.peek
  match token.kind with
  | .key =>
    let p := p.skip
    let next ← p.peek
    if [.value, .flowEntry, .flowMappingEnd].contains next.kind then
      (p.awaiting .flowMappingValue).emptyScalar next.start
    else (p.pushing .flowMappingValue).node false false
  | .flowMappingEnd => return (⟨.mappingEnd, token.start⟩, p.skip.closing)
  | _ => (p.pushing .flowMappingEmptyValue).node false false

/-- The value of a key of a bracketed mapping. -/
def flowMappingValue (p : Parser) : Step := do
  let token ← p.peek
  if token.kind = .value then
    let p := p.skip
    let next ← p.peek
    if [.flowEntry, .flowMappingEnd].contains next.kind then
      (p.awaiting .flowMappingKey).emptyScalar next.start
    else (p.pushing .flowMappingKey).node false false
  else (p.awaiting .flowMappingKey).emptyScalar token.start

/-- The content of a document, which may be left out. -/
def documentContent (p : Parser) : Step := do
  let token ← p.peek
  match token.kind with
  | .versionDirective _ _ | .tagDirective _ _ | .documentStart | .documentEnd | .streamEnd =>
    p.returning.emptyScalar token.start
  | _ => p.node true false

/-- Takes the token that opens a collection. -/
def enter (p : Parser) : Except Fault Parser := do
  let token ← p.peek
  return p.skip.opening token.start

/-- The next event. -/
def next (p : Parser) : Step := do
  match p.expectation with
  | .implicitDocument => p.documentStart true
  | .document => p.documentStart false
  | .documentContent => p.documentContent
  | .documentEnd => p.documentEnd
  | .blockNode => p.node true false
  | .blockSequenceFirst => (← p.enter).blockSequenceEntry
  | .blockSequenceEntry => p.blockSequenceEntry
  | .indentlessEntry => p.indentlessEntry
  | .blockMappingFirst => (← p.enter).blockMappingKey
  | .blockMappingKey => p.blockMappingKey
  | .blockMappingValue => p.blockMappingValue
  | .flowSequenceFirst => (← p.enter).flowSequenceEntry true
  | .flowSequenceEntry => p.flowSequenceEntry false
  | .pairKey => p.pairKey
  | .pairValue => p.pairValue
  | .pairEnd => p.pairEnd
  | .flowMappingFirst => (← p.enter).flowMappingKey true
  | .flowMappingKey => p.flowMappingKey false
  | .flowMappingValue => p.flowMappingValue
  | .flowMappingEmptyValue => do
    let token ← p.peek
    (p.awaiting .flowMappingKey).emptyScalar token.start
  | .nothing => throw ⟨"unexpected end of stream", .origin, none⟩

/-- The events up to the end of the text, and the fault that ends them early, if there is one.
`fuel` bounds their number. -/
def run : Nat → Parser → List Event × Option Fault
  | 0, _ => ([], none)
  | fuel + 1, p =>
    match p.next with
    | .error fault => ([], some fault)
    | .ok (event, p) =>
      if event.kind = .streamEnd then ([event], none)
      else
        let (events, fault) := run fuel p
        (event :: events, fault)

end Parser

/-- The events of a text, and the fault that ends them early, if there is one. -/
def events (text : List Char) : List Event × Option Fault :=
  let (tokens, fault) := tokens text
  Parser.run (4 * tokens.length + 16) ⟨tokens, fault, .implicitDocument, [], [], []⟩

end CallbackWeave.Yaml

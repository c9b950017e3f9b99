import CallbackWeave.Yaml.Event

/-!
The document of a YAML text as a tree of nodes. A text that goes wrong in the middle still has the
tree of what stands before, with a cut where the rest is missing, so that what is wrong with the
first part is told first.
-/

namespace CallbackWeave.Yaml

/-- A node of a document. The anchor of a node is the number that references to it carry. -/
inductive Node where
  | scalar (mark : Mark) (anchor : Option Nat) (tag : Option String) (text : String)
    (style : Style)
  | sequence (mark : Mark) (anchor : Option Nat) (items : List Node)
  | mapping (mark : Mark) (anchor : Option Nat) (members : List (Node × Node))
  /-- A reference to an earlier node. -/
  | reference (mark : Mark) (anchor : Nat)
  /-- The rest of the text is missing or goes wrong. -/
  | cut

namespace Node

/-- Where a node begins. -/
def mark : Node → Mark
  | scalar mark _ _ _ _ => mark
  | sequence mark _ _ => mark
  | mapping mark _ _ => mark
  | reference mark _ => mark
  | cut => .origin

end Node

/-- What is known of the anchors in front of a place: the number of each name. -/
abbrev Anchors := List (String × Nat)

/-- The anchors after a node that may have one, and its number: as many names as were known. -/
def Anchors.define (anchors : Anchors) : Option String → Option Nat × Anchors
  | none => (none, anchors)
  | some name =>
    let known := anchors.filter (·.1 ≠ name)
    (some anchors.length, (name, anchors.length) :: known)

/-- What is left of the events of a document while its tree is built. -/
structure Growth where
  events : List Event
  anchors : Anchors
  /-- The fault that cuts the tree. -/
  fault : Option Fault

namespace Growth

/-- The growth after the next event. -/
def skip (g : Growth) : Growth := { g with events := g.events.drop 1 }

/-- The growth that a fault has ended. -/
def stop (g : Growth) (fault : Option Fault) : Growth := { g with events := [], fault := fault }

mutual

/-- The node at the front of the events. `fuel` bounds the number of events. -/
def node (fuel : Nat) (g : Growth) : Node × Growth :=
  match fuel, g.events with
  | 0, _ => (.cut, g)
  | _, [] => (.cut, g)
  | fuel + 1, event :: _ =>
    let g := g.skip
    match event.kind with
    | .alias name =>
      match g.anchors.lookup name with
      | some anchor => (.reference event.mark anchor, g)
      | none => (.cut, g.stop (some ⟨"unknown anchor", event.mark, none⟩))
    | .scalar given text style =>
      let (anchor, anchors) := g.anchors.define given.anchor
      (.scalar event.mark anchor given.tag text style, { g with anchors := anchors })
    | .sequenceStart given =>
      let (anchor, anchors) := g.anchors.define given.anchor
      let (items, g) := items fuel { g with anchors := anchors }
      (.sequence event.mark anchor items, g)
    | .mappingStart given =>
      let (anchor, anchors) := g.anchors.define given.anchor
      let (members, g) := members fuel { g with anchors := anchors }
      (.mapping event.mark anchor members, g)
    | _ => (.cut, g)

/-- The items of a sequence up to its end. -/
def items (fuel : Nat) (g : Growth) : List Node × Growth :=
  match fuel, g.events with
  | 0, _ => ([.cut], g)
  | _, [] => ([.cut], g)
  | fuel + 1, event :: _ =>
    if event.kind = .sequenceEnd then ([], g.skip)
    else
      let (first, g) := node fuel g
      let (rest, g) := items fuel g
      (first :: rest, g)

/-- The members of a mapping up to its end. -/
def members (fuel : Nat) (g : Growth) : List (Node × Node) × Growth :=
  match fuel, g.events with
  | 0, _ => ([(.cut, .cut)], g)
  | _, [] => ([(.cut, .cut)], g)
  | fuel + 1, event :: _ =>
    if event.kind = .mappingEnd then ([], g.skip)
    else
      let (key, g) := node fuel g
      let (value, g) := node fuel g
      let (rest, g) := members fuel g
      ((key, value) :: rest, g)

end

end Growth

mutual

/-- The nodes that have an anchor, by its number, a node in front of those inside it. -/
def anchored : Node → List (Nat × Node)
  | .scalar mark (some anchor) tag text style =>
    [(anchor, .scalar mark (some anchor) tag text style)]
  | .sequence mark anchor items =>
    anchor.toList.map (fun n => (n, .sequence mark anchor items)) ++ anchoredItems items
  | .mapping mark anchor members =>
    anchor.toList.map (fun n => (n, .mapping mark anchor members)) ++ anchoredMembers members
  | _ => []

/-- The nodes with an anchor inside a sequence. -/
def anchoredItems : List Node → List (Nat × Node)
  | [] => []
  | item :: rest => anchored item ++ anchoredItems rest

/-- The nodes with an anchor inside a mapping. -/
def anchoredMembers : List (Node × Node) → List (Nat × Node)
  | [] => []
  | (key, value) :: rest => anchored key ++ anchored value ++ anchoredMembers rest

end

mutual

/-- Whether nothing of a node is missing. -/
def isWhole : Node → Bool
  | .cut => false
  | .sequence _ _ items => areWhole items
  | .mapping _ _ members => membersAreWhole members
  | _ => true

/-- Whether nothing of some nodes is missing. -/
def areWhole : List Node → Bool
  | [] => true
  | item :: rest => isWhole item && areWhole rest

/-- Whether nothing of some members is missing. -/
def membersAreWhole : List (Node × Node) → Bool
  | [] => true
  | (key, value) :: rest => isWhole key && isWhole value && membersAreWhole rest

end

/-- The first document of a text. -/
structure Document where
  /-- The tree of the document; a text without any document has none. -/
  root : Option Node
  /-- The nodes that references lead to. -/
  targets : List (Nat × Node)
  /-- Why the document, or the text after it, is not as it should be. -/
  fault : Option Fault

namespace Document

/-- The node that a reference leads to. Of the nodes with one number it is the last. -/
def target? (d : Document) (anchor : Nat) : Option Node := d.targets.reverse.lookup anchor

/-- The fault of a text that holds more than one document. -/
def moreDocuments : Fault :=
  ⟨"deserializing from YAML containing more than one document is not supported", .origin, none⟩

/-- What is wrong after the end of the tree of a document: the document has to end there, and the
text after it. -/
def tailFault? : List Event → Option Fault → Option Fault
  | [], fault => fault
  | last :: rest, fault =>
    if last.kind = .documentEnd then
      match rest with
      | after :: _ => if after.kind = .streamEnd then none else some moreDocuments
      | [] => some moreDocuments
    else fault

/-- Reads the first document of a text. -/
def ofText (text : List Char) : Document :=
  let (events, fault) := events text
  match events with
  | [] => ⟨some .cut, [], fault⟩
  | first :: rest =>
    if first.kind = .streamEnd then ⟨none, [], none⟩
    else
      let (root, growth) := Growth.node (2 * rest.length + 2) ⟨rest, [], fault⟩
      ⟨some root, anchored root, if growth.fault.isSome && growth.events.isEmpty then growth.fault
        else tailFault? growth.events fault⟩

end Document

end CallbackWeave.Yaml

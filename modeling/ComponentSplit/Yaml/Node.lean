import ComponentSplit.Yaml.Event
import ComponentSplit.Yaml.Resolution

namespace ComponentSplit.Yaml

/-- A node with the place where it starts. `within` is an alias to a node that it is a part of. -/
inductive Node
  | scalar (tag text : String) (mark : Mark)
  | sequence (tag : String) (items : List Node) (mark : Mark)
  | mapping (tag : String) (entries : List (Node × Node)) (mark : Mark)
  | within (mark : Mark)
deriving Inhabited

namespace Node

def mark : Node → Mark
  | scalar _ _ mark | sequence _ _ mark | mapping _ _ mark | within mark => mark

def tag : Node → String
  | scalar tag .. | sequence tag .. | mapping tag .. => tag
  | within _ => ""

/-- The name of a kind of node in messages. -/
def kindName : Node → String
  | scalar .. => "scalar"
  | sequence .. | within _ => "sequence"
  | mapping .. => "mapping"

end Node

/-- An anchor: where its node starts, and the node once it is complete. -/
structure Anchor where
  name : String
  mark : Mark
  node : Option Node := none

/-- How far the nodes of a text are put together: the events to come, the fault behind them, and
the anchors of the document. -/
structure Assembly where
  events : List Event
  fault : Option Fault
  anchors : List Anchor := []

abbrev Assembling := StateT Assembly (Except Fault)

namespace Assembling

def peek : Assembling Event := do
  let a ← get
  match a.events, a.fault with
  | event :: _, _ => pure event
  | [], some fault => throw fault
  | [], none => pure ⟨.streamEnd, {}⟩

def take : Assembling Event := do
  let event ← peek
  modify fun a => { a with events := a.events.drop 1 }
  pure event

/-- The tag of a node: its own, unless that leaves it to the kind of the node. -/
def tagOr (properties : Properties) (usual : String) : String :=
  match properties.tag with
  | none | some "!" => usual
  | some tag => tag

/-- An anchor at the start of its node. No other one of the document has its name. -/
def openAnchor (name : Option String) (mark : Mark) : Assembling Unit := do
  match name with
  | none => pure ()
  | some name =>
    match (← get).anchors.find? (·.name == name) with
    | some earlier =>
      throw (.marked .references (some (.duplicateAnchor name, some earlier.mark)) .secondOccurrence
        mark)
    | none => modify fun a => { a with anchors := ⟨name, mark, none⟩ :: a.anchors }

def closeAnchor (name : Option String) (node : Node) : Assembling Node := do
  modify fun a => { a with
    anchors := a.anchors.map fun anchor =>
      if some anchor.name = name then { anchor with node := some node } else anchor }
  pure node

mutual

def node (fuel : Nat) : Assembling Node := do
  let event ← take
  match fuel, event.kind with
  | 0, _ => pure (.within event.mark)
  | fuel + 1, kind =>
    match kind with
    | .aliasOf name =>
      match (← get).anchors.find? (·.name == name) with
      | none => throw (.marked .references none (.undefinedAlias name) event.mark)
      | some anchor => pure (anchor.node.getD (.within anchor.mark))
    | .scalar properties text isPlain =>
      openAnchor properties.anchor event.mark
      let isOpen := properties.tag == some "!" || (properties.tag.isNone && isPlain)
      let tag := tagOr properties (if isOpen then plainTag text else usualTag "str")
      closeAnchor properties.anchor (.scalar tag text event.mark)
    | .sequenceStart properties =>
      openAnchor properties.anchor event.mark
      let items ← items fuel
      closeAnchor properties.anchor (.sequence (tagOr properties (usualTag "seq")) items event.mark)
    | .mappingStart properties =>
      openAnchor properties.anchor event.mark
      let entries ← entries fuel
      closeAnchor properties.anchor
        (.mapping (tagOr properties (usualTag "map")) entries event.mark)
    | _ => pure (.within event.mark)

/-- The items of a sequence, and past its end. -/
def items (fuel : Nat) : Assembling (List Node) := do
  let event ← peek
  match fuel with
  | 0 => pure []
  | fuel + 1 =>
    if event.kind = .sequenceEnd then
      let _ ← take
      pure []
    else
      let first ← node fuel
      let others ← items fuel
      pure (first :: others)

/-- The entries of a mapping, and past its end. -/
def entries (fuel : Nat) : Assembling (List (Node × Node)) := do
  let event ← peek
  match fuel with
  | 0 => pure []
  | fuel + 1 =>
    if event.kind = .mappingEnd then
      let _ ← take
      pure []
    else
      let key ← node fuel
      let value ← node fuel
      let others ← entries fuel
      pure ((key, value) :: others)

end

/-- The only document of a text, if there is one. -/
def document (fuel : Nat) : Assembling (Option Node) := do
  let _ ← take
  if (← peek).kind = .streamEnd then pure none
  else
    let _ ← take
    let root ← node fuel
    let _ ← take
    let next ← peek
    if next.kind = .streamEnd then pure (some root)
    else
      throw (.marked .references (some (.singleDocument, some root.mark)) .anotherDocument
        next.mark)

end Assembling

/-- The node of a text that holds one document or none. -/
def node? (text : List Char) : Except Fault (Option Node) :=
  let (found, fault) := events text
  let start : Event := ⟨.streamStart, {}⟩
  ((Assembling.document (2 * found.length + 2)).run { events := start :: found, fault }).map Prod.fst

end ComponentSplit.Yaml

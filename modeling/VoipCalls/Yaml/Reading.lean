import VoipCalls.Yaml.Meaning
import VoipCalls.Yaml.Merge

/-!
# Reading a document

`Yaml.read` gives the document that a text spells out; a text without content is null.

Nodes are made into values by their tags, each node once.  A scalar is made at once.  A collection
is only noted at first, and filled when all collections noted before it have been filled; so a node
may hold itself, and the first fault in this order is the one that counts.  The finished values are
then unfolded into a document up to a given depth, below which all is foreign.
-/

namespace VoipCalls.Yaml

/-- What a node was made into.  A collection refers to the nodes inside it by their numbers. -/
inductive Made where
  | value (d : Document)
  | waiting
  | members (ds : List Document)
  | items (ids : List NodeId)
  | entries (es : List (Document × NodeId))

/-- The nodes, what was made of them so far, and the collections that wait to be filled, the one
noted last in front. -/
structure MakeState where
  nodes : Array Node
  made : Array (Option Made)
  waiting : List NodeId := []

/-- A step of making values. -/
abbrev Making := StateT MakeState (Except Fault)

/-- The text of a scalar, or of the default value of a mapping; a bound on the depth comes first. -/
def scalarText (nodes : Array Node) : Nat → NodeId → Except Fault (List Text.Point)
  | 0, _ => throw .endless
  | depth + 1, id =>
    match nodes[id]? with
    | some ⟨_, .scalar text⟩ => return text
    | some ⟨_, .mapping es⟩ =>
      match es.find? fun e => (nodes[e.1]?.map (·.tag)) == some .default with
      | some e => scalarText nodes depth e.2
      | none => throw .illFormed
    | _ => throw .illFormed

namespace Making

/-- The node of a number. -/
def node (id : NodeId) : Making Node := do
  match (← get).nodes[id]? with
  | some n => return n
  | none => throw .illFormed

/-- Note what a node was made into. -/
def note (id : NodeId) (m : Made) : Making Unit :=
  modify fun s => { s with made := s.made.modify id fun _ => some m }

/-- Make a node into a value that is no collection. -/
def makeScalar (id : NodeId) (n : Node) : Making Made := do
  let nodes := (← get).nodes
  let text ← scalarText nodes (nodes.size + 1) id
  match n.tag, n.content with
  | .date, .mapping _ => throw .noDateText
  | tag, _ => return .value (← Meaning.ofScalar tag text)

/-- Make a node into a value, if it is not made yet. -/
def make (id : NodeId) : Making Made := do
  if let some (some m) := (← get).made[id]? then return m
  let n ← node id
  match n.tag with
  | .sequence | .mapping | .set | .pairs =>
    note id .waiting
    modify fun s => { s with waiting := id :: s.waiting }
    return .waiting
  | .merge | .default | .unknown => throw .illFormed
  | _ =>
    let m ← makeScalar id n
    note id m
    return m

/-- Make the entry of a mapping.  Collections cannot be keys. -/
def makeEntry (e : NodeId × NodeId) : Making (Document × NodeId) := do
  match ← make e.1 with
  | .value key =>
    let _ ← make e.2
    return (key, e.2)
  | _ => throw .illFormed

/-- Make the only entry of a mapping in a list of pairs. -/
def makePair (id : NodeId) : Making Unit := do
  match (← node id).content with
  | .mapping [(k, v)] =>
    let _ ← make k
    let _ ← make v
  | _ => throw .illFormed

/-- Merge what a mapping asks for, and make its entries. -/
def makeEntries (id : NodeId) : Making (List (Document × NodeId)) := do
  let .mapping _ := (← node id).content | throw .illFormed
  let nodes ← mergeEntries (← get).nodes id
  modify fun s => { s with nodes }
  let .mapping es := (← node id).content | throw .illFormed
  es.mapM makeEntry

/-- The nodes of a sequence. -/
def items (id : NodeId) : Making (List NodeId) := do
  match (← node id).content with
  | .sequence ids => return ids
  | _ => throw .illFormed

/-- What a waiting collection holds. -/
def fill (id : NodeId) : Making Made := do
  match (← node id).tag with
  | .mapping => return .entries (← makeEntries id)
  | .set => return .members ((← makeEntries id).map (·.1))
  | .pairs =>
    let ids ← items id
    ids.forM makePair
    return .items ids
  | _ =>
    let ids ← items id
    ids.forM fun item => do let _ ← make item
    return .items ids

/-- Fill the collections that wait, and then those noted meanwhile, for at most a given number of
rounds. -/
def fillAll : Nat → Making Unit
  | 0 => pure ()
  | rounds + 1 => do
    let ids := (← get).waiting.reverse
    if ids.isEmpty then return
    modify fun s => { s with waiting := [] }
    ids.forM fun id => do note id (← fill id)
    fillAll rounds

end Making

/-- Unfold what was made of a node into a document, up to a depth. -/
def unfold (made : Array (Option Made)) : Nat → NodeId → Document
  | 0, _ => .foreign
  | depth + 1, id =>
    match made[id]? with
    | some (some (.value d)) => d
    | some (some (.members ds)) => .list ds
    | some (some (.items ids)) => .list (ids.map (unfold made depth))
    | some (some (.entries es)) => .mapping (es.map fun e => (e.1, unfold made depth e.2))
    | _ => .foreign

/-- The document of a graph, unfolded up to a depth. -/
def Graph.document (g : Graph) (depth : Nat) : Except Fault Document := do
  let work : Making Unit := do
    let _ ← Making.make g.root
    Making.fillAll (g.nodes.size + 1)
  let ((), s) ← work.run { nodes := g.nodes, made := Array.replicate g.nodes.size none }
  return unfold s.made depth g.root

/-- The document of a text, unfolded up to a depth. -/
def read (depth : Nat) (cs : List Char) : Except Fault Document := do
  let (ts, fault) := tokens cs
  match ← Graph.ofTokens? ts fault with
  | some g => g.document depth
  | none => return .null

end VoipCalls.Yaml

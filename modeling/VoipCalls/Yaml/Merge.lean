import VoipCalls.Yaml.Node

/-!
# Merging mappings

The key `<<` puts the entries of other mappings in front of a mapping's own, so that its own count
where both have a key.  `Merging.flatten` does this for one mapping, and first for the mappings that
it takes entries from.  An entry is taken out before its value is looked at; so mappings that merge
each other in a circle come to an end, and the number of entries bounds the steps.
-/

namespace VoipCalls.Yaml

/-- Work on the nodes of a graph. -/
abbrev Merging := StateT (Array Node) (Except Fault)

namespace Merging

/-- The node of a number. -/
def node (id : NodeId) : Merging Node := do
  match (← get)[id]? with
  | some n => return n
  | none => throw .illFormed

/-- The entries of a node that has to be a mapping. -/
def entries (id : NodeId) : Merging (List (NodeId × NodeId)) := do
  match (← node id).content with
  | .mapping es => return es
  | _ => throw .illFormed

/-- Give a mapping other entries. -/
def setEntries (id : NodeId) (es : List (NodeId × NodeId)) : Merging Unit :=
  modify fun nodes => nodes.modify id fun n => { n with content := .mapping es }

/-- The first of some entries whose key asks for a merge, and the other entries. -/
def splitMerge? (nodes : Array Node) :
    List (NodeId × NodeId) → Option (NodeId × List (NodeId × NodeId))
  | [] => none
  | (k, v) :: es =>
    if (nodes[k]?.map (·.tag)) = some .merge then some (v, es)
    else (splitMerge? nodes es).map fun (id, es) => (id, (k, v) :: es)

/-- Take the first entry out of a mapping whose key asks for a merge; the answer is its value. -/
def take? (id : NodeId) : Merging (Option NodeId) := do
  match splitMerge? (← get) (← entries id) with
  | none => return none
  | some (value, rest) =>
    setEntries id rest
    return some value

/-- A key that stands for a default value is a text like others in a mapping. -/
def settleKey (id : NodeId) : Merging Unit :=
  modify fun nodes => nodes.modify id fun n =>
    if n.tag = .default then { n with tag := .text } else n

mutual

/-- Put the merged entries in front of a mapping's own. -/
def flatten : Nat → NodeId → Merging Unit
  | 0, _ => throw .endless
  | fuel + 1, id => do
    let merged ← mergedEntries fuel id
    setEntries id (merged ++ (← entries id))
    (← entries id).forM fun e => settleKey e.1

/-- The entries that the merge keys of a mapping ask for; the keys are taken out. -/
def mergedEntries : Nat → NodeId → Merging (List (NodeId × NodeId))
  | 0, _ => throw .endless
  | fuel + 1, id => do
    match ← take? id with
    | none => return []
    | some value =>
      let front ← contribution fuel value
      return front ++ (← mergedEntries fuel id)

/-- The entries of a merged value: those of a mapping, or of all mappings in a sequence, last
mapping first. -/
def contribution : Nat → NodeId → Merging (List (NodeId × NodeId))
  | 0, _ => throw .endless
  | fuel + 1, id => do
    match (← node id).content with
    | .scalar _ => throw .illFormed
    | .mapping _ =>
      flatten fuel id
      entries id
    | .sequence items =>
      let parts ← items.mapM fun item => do
        let _ ← entries item
        flatten fuel item
        entries item
      return parts.reverse.flatten

end

/-- A bound on the steps of merging: each further mapping takes an entry out. -/
def bound (nodes : Array Node) : Nat :=
  let size (n : Node) : Nat :=
    match n.content with
    | .mapping es => es.length
    | _ => 0
  3 * (nodes.foldl (fun total n => total + size n) 0 + 2)

end Merging

/-- The nodes of a graph after the merge keys of one mapping are done. -/
def mergeEntries (nodes : Array Node) (id : NodeId) : Except Fault (Array Node) := do
  return (← (Merging.flatten (Merging.bound nodes) id).run nodes).2

end VoipCalls.Yaml

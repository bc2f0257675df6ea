import VoipCalls.Yaml.Tag
import VoipCalls.Yaml.Token

/-!
# Nodes

Tokens spell out a graph of nodes: scalars, sequences and mappings, each with its tag.  A node is
known by its number in the graph, so that an alias is the node itself that its anchor marks, even
within that node.  `Graph.ofTokens?` reads the one document of a text; a text without content has
none.

The readers are driven by a number of steps that the length of the token list bounds: every third
step at the latest takes a token.
-/

namespace VoipCalls.Yaml

open Text (Point)

/-- The number of a node in its graph. -/
abbrev NodeId := Nat

/-- What stands at a node. -/
inductive Content where
  | scalar (text : List Point)
  | sequence (items : List NodeId)
  | mapping (entries : List (NodeId × NodeId))
deriving DecidableEq, Repr

/-- A node: what it is, and what stands there. -/
structure Node where
  tag : Tag
  content : Content
deriving DecidableEq, Repr

/-- The nodes that the tokens of a document spell out, and the one that holds all others. -/
structure Graph where
  nodes : Array Node
  root : NodeId

/-- The tokens ahead and the fault behind the last of them, the nodes read so far, and what anchors
and the handles of tags stand for. -/
structure NodeState where
  ahead : List Token
  fault : Option Fault
  nodes : Array Node := #[]
  anchors : List (String × NodeId) := []
  handles : List (String × String) := []

/-- A step of the reader. -/
abbrev Nodes := StateT NodeState (Except Fault)

/-- The expansions of the handles that need no directive. -/
def standardHandles : List (String × String) :=
  [("!", "!"), ("!!", "tag:yaml.org,2002:")]

namespace Nodes

/-- The next token. -/
def peek? : Nodes (Option Token) := do
  let s ← get
  match s.ahead.head?, s.fault with
  | none, some fault => throw fault
  | next, _ => return next

/-- Whether the next token is one of some tokens. -/
def at? (ts : List Token) : Nodes Bool := do
  match ← peek? with
  | none => return false
  | some t => return ts.contains t

/-- Move behind the next token. -/
def advance : Nodes Unit :=
  modify fun s => { s with ahead := s.ahead.tail }

/-- Move behind the next token if it is a given one. -/
def accept (t : Token) : Nodes Bool := do
  if ← at? [t] then
    advance
    return true
  else return false

/-- Move behind a token that has to stand here. -/
def expect (t : Token) : Nodes Unit := do
  if !(← accept t) then throw .illFormed

/-- Check that a name is not taken by another anchor. -/
def checkAnchor (anchor : Option String) : Nodes Unit := do
  if let some name := anchor then
    if (← get).anchors.any (·.1 == name) then throw .illFormed

/-- Add a node, which an anchor may mark. -/
def add (anchor : Option String) (n : Node) : Nodes NodeId := do
  let s ← get
  let id := s.nodes.size
  let marks := anchor.toList.map fun name => (name, id)
  set { s with nodes := s.nodes.push n, anchors := marks ++ s.anchors }
  return id

/-- Put what was read into a node. -/
def fill (id : NodeId) (c : Content) : Nodes Unit :=
  modify fun s => { s with nodes := s.nodes.modify id fun n => { n with content := c } }

/-- The node that stands where nothing is written. -/
def missing : Nodes NodeId :=
  add none ⟨.null, .scalar []⟩

/-- The full text of a tag. -/
def expand (handle : Option String) (suffix : String) : Nodes String := do
  match handle with
  | none => return suffix
  | some h =>
    match (← get).handles.lookup h with
    | some expansion => return expansion ++ suffix
    | none => throw .illFormed

/-- Read an anchor, if one stands here. -/
def anchor? : Nodes (Option String) := do
  match ← peek? with
  | some (.anchor name) =>
    advance
    return some name
  | _ => return none

/-- Read a tag, if one stands here. -/
def tag? : Nodes (Option String) := do
  match ← peek? with
  | some (.tag handle suffix) =>
    advance
    return some (← expand handle suffix)
  | _ => return none

/-- Read an anchor and a tag in either order. -/
def properties : Nodes (Option String × Option String) := do
  match ← anchor? with
  | some name => return (some name, ← tag?)
  | none =>
    let tag ← tag?
    return (← anchor?, tag)

/-- The tag of a scalar.  Without a tag only a plain one is looked at; the tag that is a mere
exclamation mark makes any scalar plain. -/
def scalarTag (tag : Option String) (plain : Bool) (text : List Point) : Tag :=
  match tag with
  | some "!" => Tag.ofPlain (Text.shown text)
  | some name => Tag.ofName name
  | none => if plain then Tag.ofPlain (Text.shown text) else .text

/-- The tag of a collection; a mere exclamation mark is none. -/
def collectionTag (tag : Option String) (usual : Tag) : Tag :=
  match tag with
  | some "!" | none => usual
  | some name => Tag.ofName name

/-- Add a scalar. -/
def scalar (anchor tag : Option String) (plain : Bool) (text : List Point) : Nodes NodeId :=
  add anchor ⟨scalarTag tag plain text, .scalar text⟩

/-- Add a scalar that only an anchor or a tag shows. -/
def emptyScalar (anchor tag : Option String) : Nodes NodeId :=
  if anchor.isSome || tag.isSome then scalar anchor tag true [] else throw .illFormed

/-- Add a sequence, read by a reader of its items. -/
def sequence (anchor tag : Option String) (items : Nodes (List NodeId)) : Nodes NodeId := do
  let id ← add anchor ⟨collectionTag tag .sequence, .sequence []⟩
  fill id (.sequence (← items))
  return id

/-- Add a mapping, read by a reader of its entries. -/
def mapping (anchor tag : Option String) (entries : Nodes (List (NodeId × NodeId))) :
    Nodes NodeId := do
  let id ← add anchor ⟨collectionTag tag .mapping, .mapping []⟩
  fill id (.mapping (← entries))
  return id

mutual

/-- Read a node.  `block` says whether a block collection may stand here, `dashes` whether the
entries of a sequence may stand here without being indented. -/
def node (block dashes : Bool) : Nat → Nodes NodeId
  | 0 => throw .illFormed
  | fuel + 1 => do
    if let some (.alias name) ← peek? then
      advance
      match (← get).anchors.lookup name with
      | some id => return id
      | none => throw .illFormed
    let (anchor, tag) ← properties
    content block dashes anchor tag fuel

/-- Read what stands behind the anchor and the tag of a node. -/
def content (block dashes : Bool) (anchor tag : Option String) : Nat → Nodes NodeId
  | 0 => throw .illFormed
  | fuel + 1 => do
    let next ← peek?
    match next with
    | some (.scalar text plain) =>
      checkAnchor anchor
      advance
      scalar anchor tag plain text
    | some .flowSequence =>
      checkAnchor anchor
      advance
      sequence anchor tag (flowItems true fuel)
    | some .flowMapping =>
      checkAnchor anchor
      advance
      mapping anchor tag (flowEntries true fuel)
    | some .blockEntry =>
      checkAnchor anchor
      if dashes then sequence anchor tag (dashItems fuel) else emptyScalar anchor tag
    | some .blockSequence =>
      checkAnchor anchor
      if block then
        advance
        sequence anchor tag (blockItems fuel)
      else emptyScalar anchor tag
    | some .blockMapping =>
      checkAnchor anchor
      if block then
        advance
        mapping anchor tag (blockEntries fuel)
      else emptyScalar anchor tag
    | _ =>
      checkAnchor anchor
      emptyScalar anchor tag

/-- Read a node unless one of some tokens, or the end, shows that it is missing. -/
def nodeUnless (ends : List Token) (block dashes : Bool) : Nat → Nodes NodeId
  | 0 => throw .illFormed
  | fuel + 1 => do
    if (← peek?).isNone || (← at? ends) then missing
    else node block dashes fuel

/-- Read the entries of a block sequence up to its end. -/
def blockItems : Nat → Nodes (List NodeId)
  | 0 => throw .illFormed
  | fuel + 1 => do
    if ← accept .blockEntry then
      let n ← nodeUnless [.blockEntry, .blockEnd] true false fuel
      return n :: (← blockItems fuel)
    else
      expect .blockEnd
      return []

/-- Read the entries of a sequence that is not indented. -/
def dashItems : Nat → Nodes (List NodeId)
  | 0 => throw .illFormed
  | fuel + 1 => do
    if ← accept .blockEntry then
      let n ← nodeUnless [.blockEntry, .key, .value, .blockEnd] true false fuel
      return n :: (← dashItems fuel)
    else return []

/-- Read the entries of a block mapping up to its end. -/
def blockEntries : Nat → Nodes (List (NodeId × NodeId))
  | 0 => throw .illFormed
  | fuel + 1 => do
    if ← accept .key then
      let k ← nodeUnless [.key, .value, .blockEnd] true true fuel
      let v ← blockValue fuel
      return (k, v) :: (← blockEntries fuel)
    else
      expect .blockEnd
      return []

/-- Read the value of an entry of a block mapping. -/
def blockValue : Nat → Nodes NodeId
  | 0 => throw .illFormed
  | fuel + 1 => do
    if ← accept .value then nodeUnless [.key, .value, .blockEnd] true true fuel
    else missing

/-- Read the items of a flow sequence up to its end.  An item may be a single entry of a
mapping. -/
def flowItems (first : Bool) : Nat → Nodes (List NodeId)
  | 0 => throw .illFormed
  | fuel + 1 => do
    if ← accept .flowSequenceEnd then return []
    if !first then expect .flowEntry
    if ← accept .flowSequenceEnd then return []
    let n ←
      if ← accept .key then
        mapping none none do
          let k ← nodeUnless [.value, .flowEntry, .flowSequenceEnd] false false fuel
          let v ← flowValue .flowSequenceEnd fuel
          return [(k, v)]
      else node false false fuel
    return n :: (← flowItems false fuel)

/-- Read the entries of a flow mapping up to its end. -/
def flowEntries (first : Bool) : Nat → Nodes (List (NodeId × NodeId))
  | 0 => throw .illFormed
  | fuel + 1 => do
    if ← accept .flowMappingEnd then return []
    if !first then expect .flowEntry
    if ← accept .flowMappingEnd then return []
    if ← accept .key then
      let k ← nodeUnless [.value, .flowEntry, .flowMappingEnd] false false fuel
      let v ← flowValue .flowMappingEnd fuel
      return (k, v) :: (← flowEntries false fuel)
    else
      let k ← node false false fuel
      let v ← missing
      return (k, v) :: (← flowEntries false fuel)

/-- Read the value of an entry of a flow collection. -/
def flowValue (close : Token) : Nat → Nodes NodeId
  | 0 => throw .illFormed
  | fuel + 1 => do
    if ← accept .value then nodeUnless [.flowEntry, close] false false fuel
    else missing

end

/-- Read the directives in front of a document. -/
def directives : Nat → Bool → List (String × String) → Nodes (List (String × String))
  | 0, _, _ => throw .illFormed
  | fuel + 1, versioned, own => do
    match ← peek? with
    | some (.version major) =>
      if versioned || major != 1 then throw .illFormed
      advance
      directives fuel true own
    | some (.handle name expansion) =>
      if own.any (·.1 == name) then throw .illFormed
      advance
      directives fuel versioned ((name, expansion) :: own)
    | some .otherDirective =>
      advance
      directives fuel versioned own
    | _ => return own

/-- Move behind the ends of documents. -/
def skipEnds : Nat → Nodes Unit
  | 0 => pure ()
  | fuel + 1 => do
    if ← accept .documentEnd then skipEnds fuel

/-- Whether the next token is a directive. -/
def atDirective : Nodes Bool := do
  match ← peek? with
  | some (.version _) | some (.handle _ _) | some .otherDirective => return true
  | _ => return false

/-- Read the one document of a text, if the text has content; the answer is its root. -/
def document (fuel : Nat) : Nodes (Option NodeId) := do
  if (← peek?).isNone then return none
  let explicit := (← atDirective) || (← at? [.documentStart])
  let own ← if explicit then directives fuel false [] else pure []
  modify fun s => { s with handles := own ++ standardHandles }
  if explicit then expect .documentStart
  let empty :=
    explicit &&
      ((← peek?).isNone || (← atDirective) || (← at? [.documentStart, .documentEnd]))
  let root ← if empty then missing else node true false fuel
  skipEnds fuel
  if (← peek?).isSome then throw .illFormed
  return some root

end Nodes

/-- The one document that tokens spell out, if they have content.  The tokens may end in a fault,
which counts if it is reached. -/
def Graph.ofTokens? (ts : List Token) (fault : Option Fault) : Except Fault (Option Graph) := do
  let (root, s) ← (Nodes.document (4 * (ts.length + 2))).run { ahead := ts, fault }
  return root.map fun id => ⟨s.nodes, id⟩

end VoipCalls.Yaml

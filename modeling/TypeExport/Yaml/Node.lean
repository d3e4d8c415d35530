import TypeExport.Yaml.Tag

/-!
# Nodes of a document

A document consists of scalars, sequences and mappings.  Because a node may be repeated by an
alias, even inside itself, nodes are numbered and refer to each other by their numbers.

* `Content`, `Node` — a node, given the numbers of its parts.
* `NodeStore` — the nodes of a document.
* `NodeStore.scalarText?` — the text that a node stands for.
-/

namespace TypeExport.Yaml

/-- The number of a node. -/
abbrev NodeId := Nat

/-- The entries of a mapping in order. -/
abbrev NodeEntries := List (NodeId × NodeId)

/-- What a node holds. -/
inductive Content where
  | scalar (text : String)
  | sequence (items : List NodeId)
  | mapping (entries : NodeEntries)
deriving DecidableEq, Repr

/-- A node of a document. -/
structure Node where
  tag : Tag
  content : Content
deriving DecidableEq, Repr

/-- The nodes of a document in the order of their numbers. -/
structure NodeStore where
  nodes : Array Node := #[]

namespace NodeStore

/-- The node of a number. -/
def node? (store : NodeStore) (id : NodeId) : Option Node :=
  store.nodes[id]?

/-- The number that the next node gets. -/
def next (store : NodeStore) : NodeId :=
  store.nodes.size

/-- Add a node with the next number. -/
def push (store : NodeStore) (node : Node) : NodeStore :=
  ⟨store.nodes.push node⟩

/-- Change what a node holds. -/
def setContent (store : NodeStore) (id : NodeId) (content : Content) : NodeStore :=
  ⟨store.nodes.modify id fun node => { node with content }⟩

/-- Change the tag of a node. -/
def setTag (store : NodeStore) (id : NodeId) (tag : Tag) : NodeStore :=
  ⟨store.nodes.modify id fun node => { node with tag }⟩

/-- The entries of a mapping. -/
def entries? (store : NodeStore) (id : NodeId) : Option NodeEntries :=
  match store.node? id with
  | some ⟨_, .mapping entries⟩ => some entries
  | _ => none

/-- The node is there and has a tag. -/
def hasTag (store : NodeStore) (tag : Tag) (id : NodeId) : Bool :=
  (store.node? id).any (·.tag == tag)

/-- The text of a scalar at most `fuel` levels deep.  A mapping stands for the scalar under its
first key that is a default. -/
def textFrom? (store : NodeStore) : Nat → NodeId → Option String
  | 0, _ => none
  | fuel + 1, id =>
    match store.node? id with
    | some ⟨_, .scalar text⟩ => some text
    | some ⟨_, .mapping entries⟩ =>
      (entries.find? fun entry => store.hasTag .default entry.1).bind fun entry =>
        textFrom? store fuel entry.2
    | _ => none

/-- The text that a node stands for.  No more levels than nodes are needed: a text that is not
found there would have to be found inside itself. -/
def scalarText? (store : NodeStore) (id : NodeId) : Option String :=
  store.textFrom? (store.nodes.size + 1) id

end NodeStore

end TypeExport.Yaml

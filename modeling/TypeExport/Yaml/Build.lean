import TypeExport.Yaml.Compose
import TypeExport.Yaml.Key
import TypeExport.Yaml.Merge
import TypeExport.Yaml.Value

/-!
# Documents of nodes

Every node stands for one value, which all its repetitions share.  A collection gets its number
when its node is met, and is filled after all those that were met before it; so a collection may
stand inside itself, and merge keys see the mappings as far as they have been filled.

* `Builder` — the values found so far, and the collections that wait to be filled.
* `Build.value` — the value of a node.
* `Build.fill` — fill a collection.
* `Document.read` — the document of a text; an empty one is null.
-/

namespace TypeExport.Yaml

/-- The values found so far. -/
structure Builder where
  store : NodeStore
  /-- The values of nodes by their numbers. -/
  values : Array (Option Value)
  collections : Array Collection := #[]
  /-- The nodes of collections that are not filled yet, with the numbers of the collections, the
  last one first. -/
  waiting : List (NodeId × Nat) := []

/-- Build a part of a document, if its nodes allow it. -/
abbrev Build := StateT Builder (Except Fault)

namespace Build

/-- The node of a number. -/
def node (id : NodeId) : Build Node := do
  match (← get).store.node? id with
  | some node => return node
  | none => throw .malformed

/-- A new collection. -/
def collection (content : Collection) : Build Nat := do
  let number := (← get).collections.size
  modify fun builder => { builder with collections := builder.collections.push content }
  return number

/-- A new collection that waits to be filled from a node. -/
def waitingCollection (id : NodeId) (content : Collection) : Build Value := do
  let number ← collection content
  modify fun builder => { builder with waiting := (id, number) :: builder.waiting }
  return .collection number

/-- The text that a node stands for. -/
def scalarText (id : NodeId) : Build String := do
  match (← get).store.scalarText? id with
  | some text => return text
  | none => throw .malformed

/-- The value of a scalar, by its tag and the text that it stands for. -/
def scalar (id : NodeId) (tag : Tag) : Build Value := do
  match Scalar.ofText tag (← scalarText id) with
  | .ok value => return .scalar value
  | .error fault => throw fault

/-- The value of a node, which is found only once. -/
def value (id : NodeId) : Build Value := do
  match (← get).values[id]?.join with
  | some value => return value
  | none =>
    let value ←
      match (← node id).tag with
      | .sequence | .pairs => waitingCollection id (.list [])
      | .mapping => waitingCollection id (.mapping [])
      | .set => waitingCollection id (.set [])
      | tag => scalar id tag
    modify fun builder => { builder with values := builder.values.setIfInBounds id (some value) }
    return value

/-! ### Filling collections -/

/-- Fields with what their keys are compared by. -/
abbrev KeyedFields := List (Key × Scalar × Value)

/-- Set the value of a key; a key that is there keeps its place. -/
def enter (key : Key) (source : Scalar) (value : Value) : KeyedFields → KeyedFields
  | [] => [(key, source, value)]
  | (other, field) :: rest =>
    if other = key then (other, field.1, value) :: rest
    else (other, field) :: enter key source value rest

/-- Add an entry to some fields; its key has to be a scalar. -/
def addEntry (fields : KeyedFields) (entry : NodeId × NodeId) : Build KeyedFields := do
  match ← value entry.1 with
  | .scalar key =>
    let source := ((← get).store.scalarText? entry.1).getD ""
    return enter (.ofScalar entry.1 source key) key (← value entry.2) fields
  | .collection _ => throw .malformed

/-- The fields of a mapping after its merge keys have been carried out. -/
def fields (id : NodeId) : Build Fields := do
  match (← get).store.flatten? id with
  | none => throw .malformed
  | some store =>
    modify fun builder => { builder with store }
    let fields ← ((store.entries? id).getD []).foldlM addEntry []
    return fields.map (·.2)

/-- The pair of a mapping with one entry. -/
def pair (id : NodeId) : Build Value := do
  match (← node id).content with
  | .mapping [(first, second)] =>
    return .collection (← collection (.pair (← value first) (← value second)))
  | _ => throw .malformed

/-- Fill the collection of a node. -/
def fill (id : NodeId) (number : Nat) : Build Unit := do
  let content : Collection ←
    match ← node id with
    | ⟨.sequence, .sequence items⟩ => .list <$> items.mapM value
    | ⟨.pairs, .sequence items⟩ => .list <$> items.mapM pair
    | ⟨.mapping, .mapping _⟩ => .mapping <$> fields id
    | ⟨.set, .mapping _⟩ => (fun fields => .set (fields.map (·.1))) <$> fields id
    | _ => throw .malformed
  modify fun builder =>
    { builder with collections := builder.collections.setIfInBounds number content }

/-- Fill the collections that wait, in their order, and then those that they made wait. -/
def fillAll : Nat → Build Unit
  | 0 => return ()
  | fuel + 1 => do
    match (← get).waiting.reverse with
    | [] => return ()
    | round =>
      modify fun builder => { builder with waiting := [] }
      round.forM fun (id, number) => fill id number
      fillAll fuel

/-- The document with a node as its root.  A node waits at most once. -/
def document (root : NodeId) : Build Document := do
  let root ← value root
  fillAll ((← get).store.next + 1)
  return { root, collections := (← get).collections }

end Build

/-- The document of a text, if it is one; null if there is nothing in it.  In its texts `standIn`
takes the place of surrogates. -/
def Document.read (standIn : Char) (text : String) : Except Fault Document := do
  let tokens ← Token.scan standIn text.toList
  match ← orFault .malformed (NodeStore.ofTokens? tokens) with
  | (none, _) => return { root := .null }
  | (some root, store) =>
    let values := Array.replicate store.next none
    return (← (Build.document root).run { store, values }).1

end TypeExport.Yaml

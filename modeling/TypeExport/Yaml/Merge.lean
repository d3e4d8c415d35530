import TypeExport.Yaml.Node

/-!
# Merging mappings

The value of a merge key is a mapping, or a sequence of mappings of which the first prevails.  Its
entries are put in front of those of the mapping around it, where later entries prevail, and the
merge key is gone.  Mappings may be merged into themselves, so a merge key is taken out before its
value is looked at.

* `NodeStore.takeMerge?` — take the first merge key out of some entries.
* `NodeStore.flatten?` — the nodes after the merge keys of a mapping have been carried out.
-/

namespace TypeExport.Yaml

namespace NodeStore

/-- The value of the first merge key among some entries, and the other entries. -/
def takeMerge? (store : NodeStore) (entries : NodeEntries) : Option (NodeId × NodeEntries) :=
  match entries with
  | [] => none
  | (key, value) :: rest =>
    if store.hasTag .merge key then some (value, rest)
    else (store.takeMerge? rest).map fun (merged, others) => (merged, (key, value) :: others)

/-- A key that is a default is just a text once it is looked at as a key. -/
def settleKeys (store : NodeStore) (entries : NodeEntries) : NodeStore :=
  entries.foldl
    (fun store (key, _) => if store.hasTag .default key then store.setTag key .text else store)
    store

/-- Put entries in front of those of a mapping. -/
def addInFront (store : NodeStore) (id : NodeId) (merged entries : NodeEntries) : NodeStore :=
  if merged.isEmpty then store else store.setContent id (.mapping (merged ++ entries))

mutual

/-- Carry out the merge keys of a mapping and put `merged` and their entries in front. -/
def flattenFrom? (merged : NodeEntries) (id : NodeId) : Nat → NodeStore → Option NodeStore
  | 0, _ => none
  | fuel + 1, store => do
    let entries ← store.entries? id
    match store.takeMerge? entries with
    | none => return (store.settleKeys entries).addInFront id merged entries
    | some (value, others) =>
      let (added, store) ← addedBy? value fuel (store.setContent id (.mapping others))
      flattenFrom? (merged ++ added) id fuel store
termination_by structural fuel => fuel

/-- The entries that the value of a merge key adds, with its own merge keys carried out.  Those of
the last mapping of a sequence come first. -/
def addedBy? (value : NodeId) : Nat → NodeStore → Option (NodeEntries × NodeStore)
  | 0, _ => none
  | fuel + 1, store =>
    match store.node? value with
    | some ⟨_, .mapping _⟩ => do
      let store ← flattenFrom? [] value fuel store
      return (← store.entries? value, store)
    | some ⟨_, .sequence items⟩ =>
      items.foldlM
        (fun (added, store) item => do
          let store ← flattenFrom? [] item fuel store
          return ((← store.entries? item) ++ added, store))
        ([], store)
    | _ => none
termination_by structural fuel => fuel

end

/-- The count of entries that a node holds. -/
def nodeEntryCount : Node → Nat
  | ⟨_, .mapping entries⟩ => entries.length
  | _ => 0

/-- The count of the entries of all mappings. -/
def entryCount (store : NodeStore) : Nat :=
  store.nodes.foldl (fun count node => count + nodeEntryCount node) 0

/-- The nodes after the merge keys of a mapping have been carried out.  Without any, its keys are
only settled.  Otherwise there is a merge key less two steps further down, so the count of entries
bounds their number. -/
def flatten? (store : NodeStore) (id : NodeId) : Option NodeStore := do
  let entries ← store.entries? id
  if (store.takeMerge? entries).isNone then store.settleKeys entries
  else flattenFrom? [] id (2 * store.entryCount + 2) store

end NodeStore

end TypeExport.Yaml

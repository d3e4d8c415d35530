import TypeExport.Yaml.Node
import TypeExport.Yaml.Token

/-!
# Documents as nodes

The grammar of a document over its tokens.  Block and flow collections may hold each other, a
missing node is an empty scalar, and an entry of a flow sequence may be a mapping of one pair.  An
anchor names the node behind it as soon as the node begins, so an alias may stand inside of it.

* `Reader` — what is kept while tokens are read: the nodes, and what handles and anchors stand for.
* `Read.node` — read one node.
* `NodeStore.ofTokens?` — the only document of some tokens, if they form one.
-/

namespace TypeExport.Yaml

/-- What is kept while tokens are read. -/
structure Reader where
  tokens : List Token
  store : NodeStore := {}
  /-- Handles of tags and what they stand for. -/
  handles : List (String × String) := [("!", "!"), ("!!", Tag.standard)]
  anchors : List (String × NodeId) := []

/-- Read something from tokens, if they hold it. -/
abbrev Read := StateT Reader Option

namespace Read

/-! ### Tokens -/

/-- The next token, which stays. -/
def peek : Read (Option Token) := do
  return (← get).tokens.head?

/-- Drop the next token. -/
def drop : Read Unit :=
  modify fun reader => { reader with tokens := reader.tokens.drop 1 }

/-- The next token is a certain one. -/
def atToken (token : Token) : Read Bool := do
  return (← peek) == some token

/-- The next token is one of several, or there is none. -/
def atEnd (tokens : List Token) : Read Bool := do
  match ← peek with
  | none => return true
  | some token => return tokens.contains token

/-- Drop a token if it is next. -/
def accept (token : Token) : Read Bool := do
  if ← atToken token then
    drop
    return true
  else return false

/-- Drop a token that has to be next. -/
def require (token : Token) : Read Unit := do
  if !(← accept token) then failure

/-! ### Anchors and tags -/

/-- Add a node, with a name if there is an anchor in front of it. -/
def add (anchor? : Option String) (node : Node) : Read NodeId := do
  let id := (← get).store.next
  modify fun reader =>
    { reader with
      store := reader.store.push node
      anchors := (anchor?.map (·, id)).toList ++ reader.anchors }
  return id

/-- Change what a node holds. -/
def fill (id : NodeId) (content : Content) : Read Unit :=
  modify fun reader => { reader with store := reader.store.setContent id content }

/-- The anchor at the next token. -/
def anchor? : Read (Option String) := do
  match ← peek with
  | some (.anchor anchor) =>
    drop
    return some anchor
  | _ => return none

/-- The name of the tag at the next token; the handle has to be known. -/
def tagName? : Read (Option String) := do
  match ← peek with
  | some (.tag handle? ending) =>
    drop
    match handle? with
    | none => return some ending
    | some handle =>
      match (← get).handles.lookup handle with
      | none => failure
      | some beginning => return some (beginning ++ ending)
  | _ => return none

/-- Anchor and tag in front of a node, in either order. -/
def properties : Read (Option String × Option String) := do
  match ← anchor? with
  | some anchor =>
    let tag? ← tagName?
    return (some anchor, tag?)
  | none =>
    let tag? ← tagName?
    let anchor? ← anchor?
    return (anchor?, tag?)

/-- The node that an alias repeats; it has to be known. -/
def repeated (name : String) : Read NodeId := do
  match (← get).anchors.lookup name with
  | none => failure
  | some id => return id

/-- The name of a tag that leaves the reading of a node open. -/
def openTag : String := "!"

/-- The tag of a collection. -/
def collectionTag (kind : Tag) (tag? : Option String) : Tag :=
  match tag? with
  | none => kind
  | some name => if name == openTag then kind else .ofName name

/-- The tag of a scalar; only a plain one without a tag, or one with an open tag, is read by its
text. -/
def scalarTag (plain : Bool) (text : String) (tag? : Option String) : Tag :=
  match tag? with
  | none => if plain then .ofPlain text else .text
  | some name => if name == openTag then .ofPlain text else .ofName name

/-! ### Nodes -/

/-- A scalar. -/
def scalar (anchor? tag? : Option String) (plain : Bool) (text : String) : Read NodeId :=
  add anchor? ⟨scalarTag plain text tag?, .scalar text⟩

/-- The scalar that stands for a missing node. -/
def empty : Read NodeId :=
  scalar none none true ""

/-- A sequence, whose items are read once its anchor is known. -/
def sequence (anchor? tag? : Option String) (items : Read (List NodeId)) : Read NodeId := do
  let id ← add anchor? ⟨collectionTag .sequence tag?, .sequence []⟩
  fill id (.sequence (← items))
  return id

/-- A mapping, whose entries are read once its anchor is known. -/
def mapping (anchor? tag? : Option String) (entries : Read NodeEntries) : Read NodeId := do
  let id ← add anchor? ⟨collectionTag .mapping tag?, .mapping []⟩
  fill id (.mapping (← entries))
  return id

/-- Tokens at which an entry of a block mapping has no node. -/
def mappingStops : List Token := [.key, .value, .blockEnd]

mutual

/-- Read a node.  Block collections are read only where `inBlock` allows them; `compact` allows a
sequence without indentation of its own. -/
def node (inBlock compact : Bool) : Nat → Read NodeId
  | 0 => failure
  | fuel + 1 => do
    match ← peek with
    | some (.alias name) =>
      drop
      repeated name
    | _ =>
      let (anchor?, tag?) ← properties
      let anchors := (← get).anchors
      -- An anchor is defined once in a document.
      if anchor?.any fun anchor => (anchors.lookup anchor).isSome then failure
      match ← peek with
      | some (.scalar text plain) =>
        drop
        scalar anchor? tag? plain text
      | some .flowSequenceStart =>
        drop
        sequence anchor? tag? (flowItems true fuel)
      | some .flowMappingStart =>
        drop
        mapping anchor? tag? (flowEntries true fuel)
      | some .blockSequenceStart =>
        if !inBlock then failure
        drop
        sequence anchor? tag? (blockItems fuel)
      | some .blockMappingStart =>
        if !inBlock then failure
        drop
        mapping anchor? tag? (blockEntries fuel)
      | token? =>
        if compact && token? == some .blockEntry then
          sequence anchor? tag? (compactItems fuel)
        -- Properties without content belong to an empty scalar.
        else if anchor?.isSome || tag?.isSome then scalar anchor? tag? true ""
        else failure
termination_by structural fuel => fuel

/-- The items of a block sequence, up to its end. -/
def blockItems : Nat → Read (List NodeId)
  | 0 => failure
  | fuel + 1 => do
    if ← accept .blockEntry then
      let item ← if ← atEnd [.blockEntry, .blockEnd] then empty else node true false fuel
      return item :: (← blockItems fuel)
    else
      require .blockEnd
      return []
termination_by structural fuel => fuel

/-- The items of a sequence without indentation of its own. -/
def compactItems : Nat → Read (List NodeId)
  | 0 => failure
  | fuel + 1 => do
    if ← accept .blockEntry then
      let item ← if ← atEnd (.blockEntry :: mappingStops) then empty else node true false fuel
      return item :: (← compactItems fuel)
    else return []
termination_by structural fuel => fuel

/-- The entries of a block mapping, up to its end. -/
def blockEntries : Nat → Read NodeEntries
  | 0 => failure
  | fuel + 1 => do
    if ← accept .key then
      let key ← if ← atEnd mappingStops then empty else node true true fuel
      let value ←
        if ← accept .value then
          if ← atEnd mappingStops then empty else node true true fuel
        else empty
      return (key, value) :: (← blockEntries fuel)
    else
      require .blockEnd
      return []
termination_by structural fuel => fuel

/-- The items of a flow sequence, up to its end; `first` is set before the first one. -/
def flowItems (first : Bool) : Nat → Read (List NodeId)
  | 0 => failure
  | fuel + 1 => do
    if ← accept .flowSequenceEnd then return []
    if !first then require .flowEntry
    if ← accept .key then
      let item ← mapping none none (return [← flowEntry .flowSequenceEnd fuel])
      return item :: (← flowItems false fuel)
    else if ← accept .flowSequenceEnd then return []
    else
      let item ← node false false fuel
      return item :: (← flowItems false fuel)
termination_by structural fuel => fuel

/-- The entries of a flow mapping, up to its end; `first` is set before the first one. -/
def flowEntries (first : Bool) : Nat → Read NodeEntries
  | 0 => failure
  | fuel + 1 => do
    if ← accept .flowMappingEnd then return []
    if !first then require .flowEntry
    if ← accept .key then
      let entry ← flowEntry .flowMappingEnd fuel
      return entry :: (← flowEntries false fuel)
    else if ← accept .flowMappingEnd then return []
    else
      let key ← node false false fuel
      let value ← empty
      return (key, value) :: (← flowEntries false fuel)
termination_by structural fuel => fuel

/-- An entry behind the mark of its key, in a flow collection with the end `stop`. -/
def flowEntry (stop : Token) : Nat → Read (NodeId × NodeId)
  | 0 => failure
  | fuel + 1 => do
    let key ← if ← atEnd [.value, .flowEntry, stop] then empty else node false false fuel
    let value ←
      if ← accept .value then
        if ← atEnd [.flowEntry, stop] then empty else node false false fuel
      else empty
    return (key, value)
termination_by structural fuel => fuel

end

/-! ### Documents -/

/-- Directives before a document: one version, which has to start with one, and handles of tags,
each once.  The standard handles keep their meaning unless a directive changes it. -/
def directives : Nat → Bool → List (String × String) → Read Unit
  | 0, _, _ => failure
  | fuel + 1, hasVersion, handles => do
    match ← peek with
    | some (.versionDirective major) =>
      if hasVersion || major != 1 then failure
      drop
      directives fuel true handles
    | some (.tagDirective handle beginning) =>
      if (handles.lookup handle).isSome then failure
      drop
      directives fuel hasVersion ((handle, beginning) :: handles)
    | some .otherDirective =>
      drop
      directives fuel hasVersion handles
    | _ => modify fun reader => { reader with handles := handles ++ reader.handles }

/-- Drop marks of the end of a document. -/
def documentEnds : Nat → Read Unit
  | 0 => return ()
  | fuel + 1 => do
    if ← accept .documentEnd then documentEnds fuel

/-- The next token begins a document with marks of its own. -/
def atExplicitDocument : Read Bool := do
  match ← peek with
  | none => return true
  | some (.versionDirective _) => return true
  | some (.tagDirective _ _) => return true
  | some .otherDirective => return true
  | some .documentStart => return true
  | _ => return false

/-- The top of the only document, if there is one. -/
def document (fuel : Nat) : Read (Option NodeId) := do
  if ← atExplicitDocument then
    documentEnds fuel
    -- Nothing but the ends of documents: there is none.
    if (← peek).isNone then return none
    directives fuel false []
    require .documentStart
    let top ←
      if (← atExplicitDocument) || (← atToken .documentEnd) then empty
      else node true false fuel
    documentEnds fuel
    if (← peek).isSome then failure
    return some top
  else
    let top ← node true false fuel
    documentEnds fuel
    if (← peek).isSome then failure
    return some top

end Read

/-- The nodes of the only document of some tokens, and its top unless it is missing.  A node takes
a token or three steps down at most, so a multiple of their number is fuel enough. -/
def NodeStore.ofTokens? (tokens : List Token) : Option (Option NodeId × NodeStore) :=
  ((Read.document (6 * tokens.length + 6)).run { tokens }).map fun (top?, reader) =>
    (top?, reader.store)

end TypeExport.Yaml

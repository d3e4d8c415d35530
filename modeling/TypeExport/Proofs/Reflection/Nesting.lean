import TypeExport.Proofs.Catalog.Plain
import TypeExport.Reflection.Name

/-!
# Nesting

A type is built from its element type and its arguments, and these from theirs.  What asks for the
parts of a type, for their parts and so on, comes to an end only if the nesting does.  It does where
the declared types of a graph are not built from other types: the types that are constructed from
them are written out, and so they are finite.

* `TypeGraph.BuiltFrom` — one type stands right below another one.
* `TypeGraph.IsFlat`, `wellFounded_builtFrom` — the graphs of such declared types.
* `TypeGraph.Has`, `TypeGraph.tree_eq_node` — the types of a graph, and one level of their trees.
* `TypeGraph.Answers` — a recursion over the parts of a type ends, and with which answer.
* `TypeGraph.answers_tree` — it ends in flat graphs, with the answer that is taken from the tree.
-/

namespace TypeExport

namespace TypeGraph

/-! ### Types right below a type -/

/-- The element type of a type. -/
def element? (graph : TypeGraph) : TypeRef → Option TypeRef
  | .declared place => graph.entries[place]?.bind (·.element?)
  | .array element => some element
  | .named _ _ | .parameter _ | .generic _ _ => none

/-- The arguments of a type. -/
def arguments (graph : TypeGraph) : TypeRef → List TypeRef
  | .declared place => graph.entries[place]?.elim [] (·.arguments)
  | .generic _ arguments => arguments
  | .named _ _ | .parameter _ | .array _ => []

/-- A type is the element type or an argument of another one. -/
inductive BuiltFrom (graph : TypeGraph) : TypeRef → TypeRef → Prop
  | element {part whole : TypeRef} : graph.element? whole = some part → BuiltFrom graph part whole
  | argument {part whole : TypeRef} : part ∈ graph.arguments whole → BuiltFrom graph part whole

/-- The declared types are not built from other types. -/
def IsFlat (graph : TypeGraph) : Prop :=
  ∀ entry ∈ graph.entries, entry.element? = none ∧ entry.arguments = []

variable {graph : TypeGraph}

/-- In a flat graph a declared type has no parts. -/
theorem IsFlat.not_builtFrom_declared (h : graph.IsFlat) {part : TypeRef} {place : Nat} :
    ¬ graph.BuiltFrom part (.declared place) := by
  intro hpart
  cases hentry : graph.entries[place]? with
  | none =>
    -- A place without an entry is built from nothing; neither is an entry of a flat graph.
    cases hpart with
    | element helement => simp [element?, hentry] at helement
    | argument hargument => simp [arguments, hentry] at hargument
  | some entry =>
    obtain ⟨helement?, harguments⟩ := h entry (List.mem_of_getElem? hentry)
    cases hpart with
    | element helement => simp [element?, hentry, helement?] at helement
    | argument hargument => simp [arguments, hentry, harguments] at hargument

mutual

/-- In a flat graph no type has an endless descent into its parts. -/
theorem IsFlat.acc (h : graph.IsFlat) (type : TypeRef) : Acc graph.BuiltFrom type := by
  cases type with
  | declared place => exact Acc.intro _ fun part hpart => absurd hpart h.not_builtFrom_declared
  | named name space? | parameter name =>
    refine Acc.intro _ fun part hpart => ?_
    cases hpart with
    | element helement => cases helement
    | argument hargument => cases hargument
  | array element =>
    have hacc := IsFlat.acc h element
    refine Acc.intro _ fun part hpart => ?_
    cases hpart with
    | element helement =>
      obtain rfl : element = part := Option.some.inj helement
      exact hacc
    | argument hargument => cases hargument
  | generic head arguments =>
    -- Types are built from types that are written inside them, so the recursion is on how they are
    -- written.
    have hacc := IsFlat.acc_of_mem h arguments
    refine Acc.intro _ fun part hpart => ?_
    cases hpart with
    | element helement => cases helement
    | argument hargument => exact hacc part hargument

/-- The same holds for each type of a list. -/
theorem IsFlat.acc_of_mem (h : graph.IsFlat) (types : List TypeRef) :
    ∀ type ∈ types, Acc graph.BuiltFrom type := by
  cases types with
  | nil => nofun
  | cons first rest =>
    rw [List.forall_mem_cons]
    exact ⟨IsFlat.acc h first, IsFlat.acc_of_mem h rest⟩

end

/-- **Nesting ends** in a flat graph: no type has an unending chain of types below it. -/
theorem wellFounded_builtFrom (h : graph.IsFlat) : WellFounded graph.BuiltFrom :=
  ⟨h.acc⟩

end TypeGraph

/-- The graph of a plain catalog is flat. -/
theorem Catalog.IsPlain.isFlat {catalog : Catalog} (h : catalog.IsPlain) :
    catalog.graph.IsFlat := by
  intro entry hentry
  have hplain := h entry hentry
  exact ⟨hplain.element, hplain.arguments⟩

namespace TypeGraph

variable {graph : TypeGraph}

/-! ### Types of a graph -/

/-- All declared types that a type is built from have an entry. -/
inductive Has (graph : TypeGraph) : TypeRef → Prop
  | declared {place : Nat} : place < graph.entries.length → Has graph (.declared place)
  | named {name : String} {space? : Option String} : Has graph (.named name space?)
  | parameter {name : String} : Has graph (.parameter name)
  | array {element : TypeRef} : Has graph element → Has graph (.array element)
  | generic {head : GenericHead} {arguments : List TypeRef} :
      (∀ argument ∈ arguments, Has graph argument) → Has graph (.generic head arguments)

/-- A flat graph has the parts of what it has. -/
theorem Has.part {part whole : TypeRef} (h : graph.Has whole) (hflat : graph.IsFlat)
    (hpart : graph.BuiltFrom part whole) : graph.Has part := by
  cases h with
  | declared _ => exact absurd hpart hflat.not_builtFrom_declared
  | named | parameter =>
    cases hpart with
    | element helement => cases helement
    | argument hargument => cases hargument
  | array helement =>
    cases hpart with
    | element hpart =>
      -- The part of an array is its element, which is a type of the graph as the array is.
      obtain rfl := Option.some.inj hpart
      exact helement
    | argument hargument => cases hargument
  | generic harguments =>
    cases hpart with
    | element helement => cases helement
    | argument hargument => exact harguments _ hargument

end TypeGraph

/-- A tree from its root and what stands right below it. -/
def TypeTree.node (facts : TypeFacts) (element? : Option TypeTree) (arguments : List TypeTree) :
    TypeTree :=
  match element? with
  | none => .type facts arguments
  | some element => .withElement facts element arguments

/-- The facts of a node are those it was made with. -/
@[simp] theorem TypeTree.facts_node (facts : TypeFacts) (element? : Option TypeTree)
    (arguments : List TypeTree) : (node facts element? arguments).facts = facts := by
  cases element? <;> rfl

namespace TypeGraph

variable {graph : TypeGraph} {type : TypeRef}

/-- Right below a type in its tree stand the trees of the types that it is built from: nothing of a
flat graph is cut off as a repetition. -/
theorem tree_eq_node (hflat : graph.IsFlat) (hhas : graph.Has type) :
    graph.tree type = .node (graph.facts type) ((graph.element? type).map graph.tree)
      ((graph.arguments type).map graph.tree) := by
  cases hhas with
  | @declared place hplace =>
    have hentry := List.getElem?_eq_getElem hplace
    obtain ⟨helement, harguments⟩ := hflat _ (List.getElem_mem hplace)
    -- A declared type of a flat graph is a leaf, and nothing stands right below it on either side.
    have htree := tree_leaf hentry helement harguments
    simp only [facts, htree, element?, arguments, hentry, helement, harguments, Option.bind_some,
      Option.elim_some, Option.map_none, List.map_nil]
    rfl
  | named | parameter => rfl
  | array _ => rfl
  | generic _ =>
    simp only [facts, tree_generic, element?, arguments, Option.map_none]
    rfl

/-! ### Recursions over the parts of a type -/

section Answers

variable {α : Type} {step : TypeRef → Option α → List α → α}

/-- A recursion over the parts of a type ends with an answer: it ends for the types right below, and
`step` makes the answer for the type from theirs. -/
inductive Answers (graph : TypeGraph) (step : TypeRef → Option α → List α → α) :
    TypeRef → α → Prop
  | step {type : TypeRef} (answer : TypeRef → α) :
      (∀ part, graph.BuiltFrom part type → Answers graph step part (answer part)) →
        Answers graph step type
          (step type ((graph.element? type).map answer) ((graph.arguments type).map answer))

/-- A recursion ends only where the nesting does. -/
theorem Answers.acc {answer : α} (h : graph.Answers step type answer) :
    Acc graph.BuiltFrom type := by
  induction h with
  | step _ _ ih => exact Acc.intro _ ih

/-- What recurs over trees level by level recurs over the types themselves, with the same answers,
and ends. -/
theorem answers_tree (hflat : graph.IsFlat) (hhas : graph.Has type) (f : TypeTree → α)
    (step : TypeTree → Option α → List α → α)
    (hstep : ∀ facts element? arguments, f (.node facts element? arguments)
      = step (.node facts element? arguments) (element?.map f) (arguments.map f)) :
    graph.Answers (fun type => step (graph.tree type)) type (f (graph.tree type)) := by
  -- The induction follows the nesting, which ends in a flat graph.
  induction hflat.acc type with
  | intro type _ ih =>
    have hparts : ∀ part, graph.BuiltFrom part type →
        graph.Answers (fun type => step (graph.tree type)) part (f (graph.tree part)) :=
      fun part hpart => ih part hpart (hhas.part hflat hpart)
    have hanswer := Answers.step (fun part => f (graph.tree part)) hparts
    have hvalue : f (graph.tree type) = step (graph.tree type)
        ((graph.element? type).map fun part => f (graph.tree part))
        ((graph.arguments type).map fun part => f (graph.tree part)) := by
      rw [tree_eq_node hflat hhas, hstep, Option.map_map, List.map_map]
      rfl
    rw [hvalue]
    exact hanswer

end Answers

end TypeGraph

/-! ### Names level by level -/

namespace TypeTree

/-- The display name of a type from those of its element type and its arguments. -/
def displayStep (facts : TypeFacts) (element? : Option String) (arguments : List String) : String :=
  match facts.isArray, element? with
  | true, some element => element ++ "[]"
  | _, _ => if facts.isGeneric then genericDisplay facts.name arguments else facts.name

/-- The identity of a type from those of its element type and its arguments. -/
def identityStep (facts : TypeFacts) (element? : Option Identity) (arguments : List Identity) :
    Identity :=
  match facts.isArray, element? with
  | true, some element => .array element
  | _, _ => .named facts.fullName arguments

/-- The display names of trees are taken one by one. -/
theorem displayNames_eq_map (trees : List TypeTree) :
    displayNames trees = trees.map displayName := by
  induction trees with
  | nil => rfl
  | cons tree rest ih => rw [displayNames, ih, List.map_cons]

/-- The identities of trees are taken one by one. -/
theorem identities_eq_map (trees : List TypeTree) : identities trees = trees.map identity := by
  induction trees with
  | nil => rfl
  | cons tree rest ih => rw [identities, ih, List.map_cons]

section

variable (facts : TypeFacts) (element? : Option TypeTree) (arguments : List TypeTree)

/-- The display name of a node is made from those below it. -/
theorem displayName_node : (node facts element? arguments).displayName
    = displayStep facts (element?.map displayName) (arguments.map displayName) := by
  cases element? with
  | none => simp [node, displayName, displayNames_eq_map, displayStep]
  | some element =>
    cases h : facts.isArray <;>
      simp [node, displayName, displayNames_eq_map, displayStep, h]

/-- The identity of a node is made from those below it. -/
theorem identity_node : (node facts element? arguments).identity
    = identityStep facts (element?.map identity) (arguments.map identity) := by
  cases element? with
  | none => simp [node, identity, identities_eq_map, identityStep]
  | some element =>
    cases h : facts.isArray <;> simp [node, identity, identities_eq_map, identityStep, h]

end

end TypeTree

end TypeExport

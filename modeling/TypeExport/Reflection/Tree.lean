import TypeExport.Name.Casing
import TypeExport.Reflection.Basic

/-!
# Types unfolded

A type as the tree of the types it is built from: the elements of arrays and the arguments of
generic types, but not the types of its members.  A declared type may be built from itself; the
tree stops at a type that is being unfolded already, so every type has a finite tree.

* `TypeTree` — a type with the types it is built from.
* `TypeTree.displayName` — for instance `Dictionary<String, List<Int32>>`.
* `TypeGraph.tree` — the tree of a reference.
-/

namespace TypeExport

/-- A type with the types it is built from. -/
inductive TypeTree where
  /-- A type with its arguments. -/
  | type (facts : TypeFacts) (arguments : List TypeTree)
  /-- A type that also has an element type. -/
  | withElement (facts : TypeFacts) (element : TypeTree) (arguments : List TypeTree)
  /-- A type inside its own tree, with the name that is shown for it. -/
  | repeated (facts : TypeFacts) (shown : String)

namespace TypeTree

/-- The facts of the type at the root. -/
def facts : TypeTree → TypeFacts
  | type facts _ => facts
  | withElement facts _ _ => facts
  | repeated facts _ => facts

/-- The arguments of the type at the root. -/
def arguments : TypeTree → List TypeTree
  | type _ arguments => arguments
  | withElement _ _ arguments => arguments
  | repeated _ _ => []

/-- The element type of the type at the root. -/
def element? : TypeTree → Option TypeTree
  | withElement _ element _ => some element
  | _ => none

/-- The tree of an array of the given elements.  An array takes its name and namespace from its
element type. -/
def arrayOf (element : TypeTree) : TypeTree :=
  withElement
    { name := element.facts.name ++ "[]", space? := element.facts.space?, isArray := true }
    element []

/-- The facts of a generic type applied to arguments. -/
def genericFacts (head : GenericHead) : TypeFacts where
  name := head.name
  space? := head.space?
  definition? := some head.definition
  interfaces := head.interfaces
  markers := head.markers

/-- The display name of a generic type, given the display names of its arguments. -/
def genericDisplay (name : String) (arguments : List String) : String :=
  Name.withoutArity name ++ "<" ++ ", ".intercalate arguments ++ ">"

mutual

/-- The name of a type with its arguments, as a reader expects it. -/
def displayName : TypeTree → String
  | type facts arguments =>
    if facts.isGeneric then genericDisplay facts.name (displayNames arguments) else facts.name
  | withElement facts element arguments =>
    if facts.isArray then displayName element ++ "[]"
    else if facts.isGeneric then genericDisplay facts.name (displayNames arguments)
    else facts.name
  | repeated _ shown => shown

/-- The display names of several types. -/
def displayNames : List TypeTree → List String
  | [] => []
  | tree :: rest => displayName tree :: displayNames rest

end

end TypeTree

mutual

/-- The tree of a reference, given the tree of every declared type. -/
def TypeRef.tree (declared : Nat → TypeTree) : TypeRef → TypeTree
  | .declared place => declared place
  | .named name space? => .type { name, space? } []
  | .parameter name => .type { name, isParameter := true } []
  | .array element => .arrayOf (TypeRef.tree declared element)
  | .generic head arguments => .type (TypeTree.genericFacts head) (TypeRef.trees declared arguments)

/-- The trees of several references. -/
def TypeRef.trees (declared : Nat → TypeTree) : List TypeRef → List TypeTree
  | [] => []
  | type :: rest => TypeRef.tree declared type :: TypeRef.trees declared rest

end

namespace TypeGraph

/-- The facts of the declared type at a place. -/
def factsAt (graph : TypeGraph) (place : Nat) : TypeFacts :=
  graph.entries[place]?.elim { name := "" } (·.facts)

/-- The tree of an entry, given the tree of every declared type. -/
def treeOfEntry (declared : Nat → TypeTree) (entry : TypeEntry) : TypeTree :=
  let arguments := TypeRef.trees declared entry.arguments
  match entry.element? with
  | none => .type entry.facts arguments
  | some element => .withElement entry.facts (TypeRef.tree declared element) arguments

/-- The tree of the declared type at a place while the types in `unfolding` are being unfolded.
The budget bounds how many more declared types may be unfolded on the way down; what is not unfolded
has the name that is `shown` for it. -/
def declaredTree (graph : TypeGraph) (shown : Nat → String) : Nat → List Nat → Nat → TypeTree
  | 0, _, place => .repeated (graph.factsAt place) (shown place)
  | budget + 1, unfolding, place =>
    if unfolding.contains place then .repeated (graph.factsAt place) (shown place)
    else
      match graph.entries[place]? with
      | none => .repeated (graph.factsAt place) (shown place)
      | some entry => treeOfEntry (graph.declaredTree shown budget (place :: unfolding)) entry

/-- The display name of the declared type at a place; inside that name, the type itself has only its
simple name. -/
def shownAt (graph : TypeGraph) (place : Nat) : String :=
  (graph.declaredTree (fun other => (graph.factsAt other).name) (graph.entries.length + 1) []
    place).displayName

/-- The tree of a reference.  No path can unfold more declared types than there are, so the
number of entries, and one more to meet a repetition, is budget enough. -/
def tree (graph : TypeGraph) (type : TypeRef) : TypeTree :=
  TypeRef.tree (graph.declaredTree graph.shownAt (graph.entries.length + 1) []) type

/-- The facts of a type. -/
def facts (graph : TypeGraph) (type : TypeRef) : TypeFacts :=
  (graph.tree type).facts

end TypeGraph

end TypeExport

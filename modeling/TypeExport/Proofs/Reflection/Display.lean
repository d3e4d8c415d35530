import TypeExport.Proofs.Reflection.Nesting
import Mathlib.Data.Finset.Card
import Mathlib.Logic.Relation
import Mathlib.Order.WellFounded

/-!
# Trees with repetitions

In any finite graph, the tree of a type is cut where a type is met again that is being unfolded.
What is cut off keeps its facts and its display name: where the display name of a type comes to
an end on its own, the tree has that name, whatever is being unfolded around it.

* `TypeGraph.IsClosed` — the graphs whose types are built from types of the graph.
* `TypeRef.IsOpen`, `TypeRef.opening` — the declared types that are being unfolded.
* `TypeGraph.treeWithin`, `TypeGraph.Room` — a tree inside others, and room enough for it.
* `TypeGraph.exists_treeWithin_eq_node` — one level of such a tree.
* `TypeGraph.DisplaysAs` — the display name of a type comes to an end.
* `TypeGraph.displayName_treeWithin` — the tree has that display name.
-/

namespace TypeExport

open Relation (TransGen ReflTransGen)

/-- Nothing that is accessible lies below itself. -/
theorem not_transGen_of_acc {α : Type} {r : α → α → Prop} {a : α} (h : Acc r a) :
    ¬ TransGen r a a := by
  intro hloop
  refine not_acc_iff_exists_descending_chain.mpr ⟨fun _ => a, rfl, fun _ => ?_⟩ h.transGen
  exact hloop

/-! ### Types that are being unfolded -/

namespace TypeRef

/-- The type is one of the declared types that are being unfolded.  A type that is written out
stands at one place only, so it is never met inside itself. -/
def IsOpen (guard : Finset Nat) : TypeRef → Prop
  | declared place => place ∈ guard
  | _ => False

instance (guard : Finset Nat) (type : TypeRef) : Decidable (type.IsOpen guard) :=
  match type with
  | declared place => inferInstanceAs (Decidable (place ∈ guard))
  | named _ _ | parameter _ | array _ | generic _ _ => inferInstanceAs (Decidable False)

/-- The types that are being unfolded, together with the type. -/
def opening (guard : Finset Nat) : TypeRef → Finset Nat
  | declared place => insert place guard
  | _ => guard

/-- Opening a declared type adds its place to the guard. -/
theorem mem_opening {guard : Finset Nat} {type : TypeRef} {place : Nat} :
    place ∈ type.opening guard ↔ type = .declared place ∨ place ∈ guard := by
  cases type with
  | declared other => simp only [opening, Finset.mem_insert, declared.injEq, eq_comm]
  | named | parameter | array | generic => simp [opening]

end TypeRef

namespace TypeGraph

variable {graph : TypeGraph} {type : TypeRef}

/-! ### Closed graphs -/

/-- The declared types are built from types of the graph. -/
def IsClosed (graph : TypeGraph) : Prop :=
  ∀ place < graph.entries.length, ∀ part, graph.BuiltFrom part (.declared place) → graph.Has part

/-- A closed graph has the parts of what it has. -/
theorem IsClosed.has_part (hclosed : graph.IsClosed) {part whole : TypeRef}
    (h : graph.Has whole) (hpart : graph.BuiltFrom part whole) : graph.Has part := by
  -- A declared type names types of the graph, as a closed graph says; all others hold their parts.
  cases h with
  | declared hplace => exact hclosed _ hplace part hpart
  | named | parameter =>
    cases hpart with
    | element helement => cases helement
    | argument hargument => cases hargument
  | array helement =>
    cases hpart with
    | element hpart =>
      obtain rfl := Option.some.inj hpart
      exact helement
    | argument hargument => cases hargument
  | generic harguments =>
    cases hpart with
    | element helement => cases helement
    | argument hargument => exact harguments _ hargument

/-! ### Trees inside other trees -/

/-- The tree of a reference while some types are being unfolded. -/
def treeWithin (graph : TypeGraph) (shown : Nat → String) (budget : Nat) (unfolding : List Nat)
    (type : TypeRef) : TypeTree :=
  TypeRef.tree (graph.declaredTree shown budget unfolding) type

/-- The budget is enough for the declared types that are not being unfolded, and for one more to
meet a repetition. -/
structure Room (graph : TypeGraph) (budget : Nat) (unfolding : List Nat) : Prop where
  inside : ∀ place ∈ unfolding, place < graph.entries.length
  enough : graph.entries.length + 1 ≤ budget + unfolding.toFinset.card

/-- Before anything is unfolded, there is room for every entry. -/
theorem room_nil (graph : TypeGraph) : graph.Room (graph.entries.length + 1) [] where
  inside := nofun
  enough := Nat.le_add_right _ _

/-- No more places are unfolded than there are entries. -/
theorem Room.card_le {budget : Nat} {unfolding : List Nat} (h : graph.Room budget unfolding) :
    unfolding.toFinset.card ≤ graph.entries.length := by
  have hsubset : unfolding.toFinset ⊆ Finset.range graph.entries.length := by
    intro place hplace
    exact Finset.mem_range.mpr (h.inside place (List.mem_toFinset.mp hplace))
  simpa using Finset.card_le_card hsubset

/-- The next declared type takes one of the budget. -/
theorem Room.cons {budget : Nat} {unfolding : List Nat} {place : Nat}
    (h : graph.Room (budget + 1) unfolding) (hplace : place < graph.entries.length)
    (hnew : place ∉ unfolding) : graph.Room budget (place :: unfolding) where
  inside := List.forall_mem_cons.mpr ⟨hplace, h.inside⟩
  enough := by
    have henough := h.enough
    rw [List.toFinset_cons, Finset.card_insert_of_notMem (by simpa using hnew)]
    omega

variable {shown : Nat → String} {budget : Nat} {unfolding : List Nat}

/-- The tree of a declared type carries the facts of its entry. -/
theorem facts_declaredTree (place : Nat) :
    (graph.declaredTree shown budget unfolding place).facts = graph.factsAt place := by
  -- However the unfolding ends, the facts are those of the place.
  cases budget with
  | zero => rfl
  | succ budget =>
    unfold declaredTree
    split
    · rfl
    · cases hentry : graph.entries[place]? with
      | none => rfl
      | some entry =>
        show (treeOfEntry _ entry).facts = _
        unfold treeOfEntry factsAt
        rw [hentry]
        cases entry.element? <;> rfl

/-- An array takes its facts from those of its elements. -/
theorem facts_arrayOf_congr {element element' : TypeTree} (h : element.facts = element'.facts) :
    element.arrayOf.facts = element'.arrayOf.facts := by
  unfold TypeTree.arrayOf
  rw [h]
  rfl

/-- A cut tree says the same of its type as the whole tree. -/
theorem facts_treeWithin (shown : Nat → String) (budget : Nat) (unfolding : List Nat)
    (type : TypeRef) :
    (graph.treeWithin shown budget unfolding type).facts = graph.facts type := by
  cases type with
  | declared place => exact (facts_declaredTree place).trans (facts_declaredTree place).symm
  | named | parameter | generic => rfl
  | array element => exact facts_arrayOf_congr (facts_treeWithin shown budget unfolding element)

/-- The tree of an entry has those of its element and its arguments below it. -/
theorem treeOfEntry_eq_node (declared : Nat → TypeTree) (entry : TypeEntry) :
    treeOfEntry declared entry
      = .node entry.facts (entry.element?.map (TypeRef.tree declared))
          (entry.arguments.map (TypeRef.tree declared)) := by
  unfold treeOfEntry
  rw [TypeRef.trees_eq_map]
  cases entry.element? <;> rfl

/-- A type that is being unfolded is cut off. -/
theorem treeWithin_of_isOpen {place : Nat} (h : place ∈ unfolding) :
    graph.treeWithin shown budget unfolding (.declared place)
      = .repeated (graph.factsAt place) (shown place) := by
  show graph.declaredTree shown budget unfolding place = _
  cases budget with
  | zero => rfl
  | succ budget =>
    unfold declaredTree
    rw [if_pos (List.contains_iff_mem.mpr h)]

/-- Any other type has the trees of the types right below it, inside one more type. -/
theorem exists_treeWithin_eq_node (hroom : graph.Room budget unfolding) (hhas : graph.Has type)
    (hopen : ¬ type.IsOpen unfolding.toFinset) (shown : Nat → String) :
    ∃ budget' unfolding', graph.Room budget' unfolding' ∧
      unfolding'.toFinset = type.opening unfolding.toFinset ∧
      graph.treeWithin shown budget unfolding type
        = .node (graph.facts type)
            ((graph.element? type).map (graph.treeWithin shown budget' unfolding'))
            ((graph.arguments type).map (graph.treeWithin shown budget' unfolding')) := by
  cases type with
  | declared place =>
    cases hhas with
    | declared hplace =>
      -- The type is unfolded: it joins those that are, and there is room for one less.
      have hnew : place ∉ unfolding := fun hmem => hopen (List.mem_toFinset.mpr hmem)
      have hcard := hroom.card_le
      have henough := hroom.enough
      obtain ⟨budget, rfl⟩ : ∃ fewer, budget = fewer + 1 := ⟨budget - 1, by omega⟩
      refine ⟨budget, place :: unfolding, hroom.cons hplace hnew, List.toFinset_cons, ?_⟩
      have hentry := List.getElem?_eq_getElem hplace
      have hfacts : graph.facts (.declared place) = graph.entries[place].facts := by
        refine (facts_declaredTree place).trans ?_
        rw [factsAt, hentry, Option.elim_some]
      have helement : graph.element? (.declared place) = graph.entries[place].element? := by
        rw [element?, hentry, Option.bind_some]
      have harguments : graph.arguments (.declared place) = graph.entries[place].arguments := by
        rw [arguments, hentry, Option.elim_some]
      show graph.declaredTree shown (budget + 1) unfolding place = _
      rw [hfacts, helement, harguments, declaredTree, if_neg (by simpa using hnew), hentry]
      exact treeOfEntry_eq_node _ _
  | named | parameter => exact ⟨budget, unfolding, hroom, rfl, rfl⟩
  | array element =>
    refine ⟨budget, unfolding, hroom, rfl, ?_⟩
    rw [← facts_treeWithin shown budget unfolding]
    rfl
  | generic head arguments =>
    refine ⟨budget, unfolding, hroom, rfl, ?_⟩
    show TypeTree.type _ (TypeRef.trees _ arguments) = _
    rw [TypeRef.trees_eq_map]
    rfl

/-! ### Display names -/

/-- The types whose display names are part of the display name of a type. -/
def shownParts (graph : TypeGraph) (type : TypeRef) : List TypeRef :=
  match (graph.facts type).isArray, graph.element? type with
  | true, some element => [element]
  | _, _ => if (graph.facts type).isGeneric then graph.arguments type else []

/-- The display name of one type is part of that of another one. -/
def ShownIn (graph : TypeGraph) (part whole : TypeRef) : Prop :=
  part ∈ graph.shownParts whole

/-- The display name of a type comes to an end: those of its parts do, and it is made of them. -/
inductive DisplaysAs (graph : TypeGraph) : TypeRef → String → Prop
  | intro {type : TypeRef} (name : TypeRef → String) :
      (∀ part, graph.ShownIn part type → DisplaysAs graph part (name part)) →
        DisplaysAs graph type (TypeTree.displayStep (graph.facts type)
          ((graph.element? type).map name) ((graph.arguments type).map name))

/-- Nothing but the names of those parts goes into a display name. -/
theorem displayStep_congr {name name' : TypeRef → String}
    (h : ∀ part, graph.ShownIn part type → name part = name' part) :
    TypeTree.displayStep (graph.facts type) ((graph.element? type).map name)
        ((graph.arguments type).map name)
      = TypeTree.displayStep (graph.facts type) ((graph.element? type).map name')
        ((graph.arguments type).map name') := by
  unfold ShownIn shownParts at h
  unfold TypeTree.displayStep
  -- An array shows its elements, any other generic type its arguments.
  have hgeneric (hparts : ∀ part ∈ if (graph.facts type).isGeneric then graph.arguments type
      else [], name part = name' part) :
      (if (graph.facts type).isGeneric then
        TypeTree.genericDisplay (graph.facts type).name ((graph.arguments type).map name)
        else (graph.facts type).name)
      = if (graph.facts type).isGeneric then
        TypeTree.genericDisplay (graph.facts type).name ((graph.arguments type).map name')
        else (graph.facts type).name := by
    by_cases h : (graph.facts type).isGeneric = true
    · rw [if_pos h] at hparts
      rw [if_pos h, if_pos h, List.map_congr_left hparts]
    · rw [if_neg h, if_neg h]
  cases harray : (graph.facts type).isArray with
  | false =>
    rw [harray] at h
    exact hgeneric h
  | true =>
    cases helement : graph.element? type with
    | none =>
      rw [harray, helement] at h
      exact hgeneric h
    | some element =>
      rw [harray, helement] at h
      show name element ++ "[]" = name' element ++ "[]"
      rw [h element (List.mem_singleton_self element)]

/-- A type whose name is shown in that of another is a part of it. -/
theorem ShownIn.builtFrom {part whole : TypeRef} (h : graph.ShownIn part whole) :
    graph.BuiltFrom part whole := by
  unfold ShownIn shownParts at h
  split at h
  · next element _ helement =>
    obtain rfl := List.mem_singleton.mp h
    exact .element helement
  · split at h
    · exact .argument h
    · cases h

/-- A type displays as one name at most. -/
theorem DisplaysAs.eq {name name' : String} (h : graph.DisplaysAs type name)
    (h' : graph.DisplaysAs type name') : name = name' := by
  induction h generalizing name' with
  | intro names _ ih =>
    cases h' with
    | intro names' hparts' =>
      exact displayStep_congr fun part hpart => ih part hpart (hparts' part hpart)

/-- A type that displays as a name has no endless descent through shown parts. -/
theorem DisplaysAs.acc {name : String} (h : graph.DisplaysAs type name) :
    Acc graph.ShownIn type := by
  induction h with
  | intro _ _ ih => exact Acc.intro _ ih

/-- **Display names.**  A display name that comes to an end is the one of the tree, if it is shown
for the types that are being unfolded and part of the name. -/
theorem displayName_treeWithin_of_shown (shown : Nat → String) (hclosed : graph.IsClosed)
    (hhas : graph.Has type) {name : String} (h : graph.DisplaysAs type name)
    (hroom : graph.Room budget unfolding)
    (hshown : ∀ place ∈ unfolding, ReflTransGen graph.ShownIn (.declared place) type →
      ∀ other, graph.DisplaysAs (.declared place) other → shown place = other) :
    (graph.treeWithin shown budget unfolding type).displayName = name := by
  induction h generalizing budget unfolding with
  | @intro type names hparts ih =>
    by_cases hopen : type.IsOpen unfolding.toFinset
    · cases type with
      | declared place =>
        have hplace : place ∈ unfolding := List.mem_toFinset.mp hopen
        rw [treeWithin_of_isOpen hplace]
        exact hshown place hplace .refl _ (.intro names hparts)
      | named | parameter | array | generic => cases hopen
    · obtain ⟨budget', unfolding', hroom', hunfolding, htree⟩ :=
        exists_treeWithin_eq_node hroom hhas hopen shown
      rw [htree, TypeTree.displayName_node, Option.map_map, List.map_map]
      refine displayStep_congr fun part hpart => ?_
      have hhasPart := hclosed.has_part hhas hpart.builtFrom
      refine ih part hpart hhasPart hroom' fun place hplace hbelow other hother => ?_
      have hmem : place ∈ type.opening unfolding.toFinset := by
        rw [← hunfolding]
        exact List.mem_toFinset.mpr hplace
      obtain rfl | hplace := TypeRef.mem_opening.mp hmem
      · -- A type would be part of its own display name, which then would not end.
        exact absurd (TransGen.tail' hbelow hpart) (not_transGen_of_acc hother.acc)
      · exact hshown place (List.mem_toFinset.mp hplace) (hbelow.tail hpart) other hother

/-- A declared type that is cut off has its display name. -/
theorem shownAt_eq (hclosed : graph.IsClosed) {place : Nat} {name : String}
    (hhas : graph.Has (.declared place)) (h : graph.DisplaysAs (.declared place) name) :
    graph.shownAt place = name := by
  have hname := displayName_treeWithin_of_shown (fun other => (graph.factsAt other).name) hclosed
    hhas h (room_nil graph) nofun
  exact hname

/-- A display name that comes to an end is that of the tree, whatever is being unfolded. -/
theorem displayName_treeWithin (hclosed : graph.IsClosed) (hhas : graph.Has type) {name : String}
    (h : graph.DisplaysAs type name) (hroom : graph.Room budget unfolding) :
    (graph.treeWithin graph.shownAt budget unfolding type).displayName = name := by
  refine displayName_treeWithin_of_shown _ hclosed hhas h hroom
    fun place hplace _ other hother => ?_
  exact shownAt_eq hclosed (.declared (hroom.inside place hplace)) hother

/-- The tree of a type that displays as a name has that display name. -/
theorem displayName_tree (hclosed : graph.IsClosed) (hhas : graph.Has type) {name : String}
    (h : graph.DisplaysAs type name) : (graph.tree type).displayName = name :=
  displayName_treeWithin hclosed hhas h (room_nil graph)

end TypeGraph

end TypeExport

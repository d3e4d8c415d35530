import TypeExport.Conversion
import TypeExport.ViewModel

/-!
# Bags

C# classes that carry data: the bag of an entity, with the properties that can be copied, and an
empty bag for options.  The text is indented for a namespace block.

* `entityBag` — the bag of an entity.
* `optionsBag` — an empty bag.
-/

namespace TypeExport

/-- A property of a bag: its lines and the imports it needs. -/
def bagProperty (graph : TypeGraph) (settings : Settings) (documentation : Documentation)
    (strict : Bool) (owned : OwnedProperty) : Report GenerateError Declaration := do
  let property := owned.property
  let type ← propertyType graph settings .csharp strict true property.type
  let comment :=
    match owned.owner? with
    | some owner =>
      cSharpComment (documentation.memberSummary? (graph.facts owner).fullName property.name) 8
    | none => ""
  return {
    text := comment ++ "        public " ++ type.text ++ " " ++ property.name ++ " \x7b get; set; \x7d\n"
    imports := type.imports }

/-- The class of a bag, with lines between its braces. -/
def bagClass (summary? : Option String) (head : String) (body : String) : String :=
  cSharpComment summary? 4 ++ "    public class " ++ head ++ "\n    \x7b\n" ++ body ++ "    \x7d\n"

/-- The name of the bag of an entity. -/
def bagName (entityName : String) : String :=
  entityName ++ "Bag"

/-- The bag of an entity, with those of its properties that can stand in one, sorted by name. -/
def entityBag (graph : TypeGraph) (settings : Settings) (documentation : Documentation)
    (strict : Bool) (entityName : String) (summary? : Option String)
    (properties : List OwnedProperty) : Report GenerateError Declaration := do
  let supported := properties.filter fun owned =>
    (graph.tree owned.property.type).isSupported settings
  let ordered := Name.sortByName (fun (owned : OwnedProperty) => owned.property.name) supported
  let lines ← ordered.mapM (bagProperty graph settings documentation strict)
  return {
    text :=
      bagClass summary? (bagName entityName ++ " : " ++ settings.entityBagBase)
        ("\n".intercalate (lines.map (·.text)))
    imports :=
      Import.merge ([⟨settings.utilitySpace, settings.entityBagBase⟩] :: lines.map (·.imports))
        [bagName entityName] }

/-- An empty bag. -/
def optionsBag (name : String) (summary? : Option String) : Declaration :=
  ⟨bagClass summary? name "", []⟩

end TypeExport

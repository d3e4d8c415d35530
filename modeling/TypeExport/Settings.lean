/-!
# Settings

Names and paths that steer how types are classified and rendered.

* `Settings` — namespaces, well-known type names, comments and the failure policy.
* `ModulePaths` — where generated TypeScript imports from.
-/

namespace TypeExport

/-- Modules that generated TypeScript imports from. -/
structure ModulePaths where
  /-- Root of the modules of enumerations. -/
  enumsRoot : String := "@Obsidian/Enums"
  /-- Root of the modules of view models. -/
  viewModelsRoot : String := "@Obsidian/ViewModels"
  /-- Module of the identifier type. -/
  identifier : String := "@Obsidian/Types"
  /-- Module of the reference bag. -/
  referenceBag : String := "@Obsidian/ViewModels/Utility/listItemBag"
  /-- Module of the box that tracks which of its properties are valid. -/
  box : String := "@Obsidian/ViewModels/Utility/validPropertiesBox"
deriving DecidableEq, Repr

/-- What steers classification and rendering. -/
structure Settings where
  /-- Namespace that holds the enumerations shared by everything. -/
  enumsSpace : String := "Rock.Enums"
  /-- Namespace that holds the view models. -/
  viewModelsSpace : String := "Rock.ViewModels"
  /-- Full name of the interface that entities implement. -/
  entityInterface : String := "Rock.Data.IEntity"
  /-- Full name of the marker that gives an enumeration its domain. -/
  domainMarker : String := "Rock.Enums.EnumDomainAttribute"
  /-- Full name of the generic box that tracks which of its properties are valid. -/
  boxDefinition : String := "Rock.ViewModels.Utility.ValidPropertiesBox`1"
  /-- Namespace of the reference bag, the box and the base of entity bags. -/
  utilitySpace : String := "Rock.ViewModels.Utility"
  /-- Name of the type that stands for a reference to an entity. -/
  referenceBag : String := "ListItemBag"
  /-- Base class of entity bags. -/
  entityBagBase : String := "EntityBagBase"
  /-- Fail on unsupported types instead of putting a placeholder in their place. -/
  strict : Bool := false
  /-- Comment that marks a file as generated. -/
  generatedComment? : Option String := none
  /-- Comment at the top of a file. -/
  copyrightComment? : Option String := none
  modules : ModulePaths := {}
deriving DecidableEq, Repr

end TypeExport

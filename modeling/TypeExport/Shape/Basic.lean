import TypeExport.Metadata

/-!
# Shapes

A shape is what generated code needs to know of a type.  Every type has exactly one.

* `Shape` — the closed set of shapes.
* `Shape.unsupported` — the display names of the parts that no rule covers.
-/

namespace TypeExport

/-- Kinds of primitive values. -/
inductive Primitive where
  | boolean
  | number
  | string
  | identifier
  | timestamp
deriving DecidableEq, Repr

/-- What generated code needs to know of a type. -/
inductive Shape where
  /-- A primitive value, with the simple name of its type. -/
  | primitive (kind : Primitive) (typeName : String)
  /-- A value type that may be absent. -/
  | nullable (inner : Shape)
  | array (element : Shape)
  /-- An ordered collection. -/
  | collection (element : Shape)
  | dictionary (key value : Shape)
  /-- A generic type that is no collection. -/
  | container (name : String) (arguments : List Shape)
  /-- An enumeration of the shared namespace, with its path below that namespace. -/
  | globalEnum (name space path : String) (metadata : Metadata)
  /-- An enumeration found by its domain. -/
  | domainEnum (name space domain path : String) (metadata : Metadata)
  /-- A stored entity, which is only referred to. -/
  | entity (name space : String) (metadata : Metadata)
  /-- A view model, with its path below the namespace of view models. -/
  | viewModel (name space path : String) (metadata : Metadata)
  /-- An open type parameter. -/
  | parameter (name : String)
  /-- A type that no rule covers. -/
  | unsupported (displayName : String)

end TypeExport

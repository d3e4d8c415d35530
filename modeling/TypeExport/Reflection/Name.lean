import TypeExport.Name.Casing
import TypeExport.Reflection.Tree

/-!
# Names of types

Besides its display name, a type has the name under which it is declared in generated code, the form
shown in messages, and an identity by which references to it are recognised.

* `TypeTree.declaredName` — the name in a declaration, with the names of type parameters.
* `TypeTree.literal` — the form in messages.
* `Identity`, `TypeTree.identity` — full name and arguments.
-/

namespace TypeExport

open Name (withoutArity)

namespace TypeTree

/-- The name of a type in its declaration, followed by its type parameters; a constructed type
lists the names of its arguments instead. -/
def declaredName (tree : TypeTree) : String :=
  let parameters :=
    if tree.facts.parameters.isEmpty then tree.arguments.map (·.facts.name)
    else tree.facts.parameters
  if parameters.isEmpty then tree.facts.name
  else genericDisplay tree.facts.name parameters

/-- The type as it is shown in messages. -/
def literal (tree : TypeTree) : String :=
  "TypeHandle(" ++ Text.literal tree.facts.fullName ++ ")"

end TypeTree

/-- What makes a type the same as another one: its full name and the identities of its arguments,
or for an array the identity of its elements. -/
inductive Identity where
  | array (element : Identity)
  | named (fullName : String) (arguments : List Identity)

mutual

/-- Two identities are equal. -/
def Identity.same : Identity → Identity → Bool
  | .array a, .array b => Identity.same a b
  | .named a as, .named b bs => a == b && Identity.allSame as bs
  | _, _ => false

/-- Two lists of identities are equal. -/
def Identity.allSame : List Identity → List Identity → Bool
  | [], [] => true
  | a :: as, b :: bs => Identity.same a b && Identity.allSame as bs
  | _, _ => false

end

namespace TypeTree

mutual

/-- The identity of a type. -/
def identity : TypeTree → Identity
  | type facts arguments => .named facts.fullName (identities arguments)
  | withElement facts element arguments =>
    if facts.isArray then .array (identity element)
    else .named facts.fullName (identities arguments)
  | repeated facts _ => .named facts.fullName []

/-- The identities of several types. -/
def identities : List TypeTree → List Identity
  | [] => []
  | tree :: rest => identity tree :: identities rest

end

end TypeTree

end TypeExport

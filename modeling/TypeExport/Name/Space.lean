/-!
# Namespaces

A namespace is written as segments with a dot between them.

* `isUnder` — a namespace is a root or one of its descendants.
* `below` — the segments below a root.
* `rootSegment`, `parentSpace`, `lastSegment` — parts of a dotted name.
-/

namespace TypeExport.Name

/-- The namespace is the root or one of its descendants; having none is under no root. -/
def isUnder (space? : Option String) (root : String) : Bool :=
  match space? with
  | none => false
  | some space =>
    space != "" && (space == root || (root.toList ++ ['.']).isPrefixOf space.toList)

/-- The segments of a namespace below a root, which is empty at the root itself. -/
def below (space root : String) : List String :=
  (((space.toList.drop root.toList.length).splitOn '.').filter (!·.isEmpty)).map String.ofList

/-- The first segment of a dotted name. -/
def rootSegment (name : String) : String :=
  .ofList (name.toList.takeWhile (· ≠ '.'))

/-- The last segment of a dotted name. -/
def lastSegment (name : String) : String :=
  .ofList (name.toList.reverse.takeWhile (· ≠ '.')).reverse

/-- The part of a dotted name before its last dot; empty without a dot. -/
def parentSpace (name : String) : String :=
  .ofList ((name.toList.reverse.dropWhile (· ≠ '.')).drop 1).reverse

end TypeExport.Name

import TypeExport.Text.Replace

/-!
# Elements and text

The content of an XML document, without comments and processing instructions.

* `Name` — the last part of a name as written, with the namespace that claims it.
* `Element`, `Node` — elements, and what stands inside them.
* `Element.childrenNamed`, `Element.attribute?` — look-up of plain names.
* `Prefixes` — the prefixes of namespaces in a written element.
* `Element.inner` — the content of an element as XML text.
-/

namespace TypeExport.Xml

open TypeExport.Text

/-- The part of a name behind its prefix, and the namespace that claims it. -/
structure Name where
  part : String
  space? : Option String := none
deriving DecidableEq, Repr

namespace Name

/-- The name is `plain` and in no namespace. -/
def isPlain (plain : String) (name : Name) : Bool :=
  name.space?.isNone && name.part == plain

end Name

/-- An attribute with its value, all references resolved. -/
structure Attribute where
  name : Name
  value : String
deriving DecidableEq, Repr

/-- What stands inside an element. -/
inductive Node where
  | text (content : String)
  | element (name : Name) (attributes : List Attribute) (content : List Node)

/-- An element with its attributes in order and its content. -/
structure Element where
  name : Name
  attributes : List Attribute
  content : List Node

namespace Node

/-- The element, if the node is one. -/
def element? : Node → Option Element
  | text _ => none
  | element name attributes content => some { name, attributes, content }

end Node

namespace Element

/-- The elements directly inside an element. -/
def children (element : Element) : List Element :=
  element.content.filterMap Node.element?

/-- The elements of a name directly inside an element. -/
def childrenNamed (element : Element) (name : String) : List Element :=
  element.children.filter (·.name.isPlain name)

/-- The value of an attribute. -/
def attribute? (element : Element) (name : String) : Option String :=
  (element.attributes.find? (·.name.isPlain name)).map (·.value)

end Element

/-! ### Prefixes -/

/-- The namespace of the prefix that needs no declaration. -/
def standardSpace : String := "http://www.w3.org/XML/1998/namespace"

/-- The prefix that needs no declaration. -/
def standardPrefix : String := "xml"

/-- Namespaces that have a prefix of their own. -/
def knownPrefixes : List (String × String) :=
  [(standardSpace, standardPrefix), ("http://www.w3.org/1999/xhtml", "html"),
    ("http://www.w3.org/1999/02/22-rdf-syntax-ns#", "rdf"),
    ("http://schemas.xmlsoap.org/wsdl/", "wsdl"), ("http://www.w3.org/2001/XMLSchema", "xs"),
    ("http://www.w3.org/2001/XMLSchema-instance", "xsi"),
    ("http://purl.org/dc/elements/1.1/", "dc")]

/-- Namespaces with the prefixes that an element declares for them, in the order of their first
use. -/
abbrev Prefixes := List (String × String)

namespace Prefixes

/-- The prefixes when a namespace is used: one that has none takes its own, or else one with the
number of those that were declared before. -/
def use (prefixes : Prefixes) (space : String) : Prefixes :=
  if space = standardSpace || (prefixes.lookup space).isSome then prefixes
  else
    prefixes ++ [(space, (knownPrefixes.lookup space).getD ("ns" ++ toString prefixes.length))]

/-- A name with the prefix of its namespace. -/
def qualified (prefixes : Prefixes) (name : Name) : String :=
  match name.space? with
  | none => name.part
  | some space => (prefixes.lookup space).getD standardPrefix ++ ":" ++ name.part

/-- The attributes that declare the prefixes, in the order of the prefixes. -/
def declarations (prefixes : Prefixes) : List (String × String) :=
  (prefixes.mergeSort fun a b => decide (a.2 ≤ b.2)).map fun (space, name) =>
    ("xmlns:" ++ name, space)

end Prefixes

mutual

/-- The namespaces that a node uses, in the order of their uses. -/
def Node.spaces : Node → List String
  | .text _ => []
  | .element name attributes content =>
    name.space?.toList ++ attributes.filterMap (·.name.space?) ++ allSpaces content

/-- The namespaces that several nodes use. -/
def allSpaces : List Node → List String
  | [] => []
  | node :: rest => Node.spaces node ++ allSpaces rest

end

/-! ### Writing -/

/-- What stands for a character of a text. -/
def textChar : Char → List Char
  | '&' => "&amp;".toList
  | '<' => "&lt;".toList
  | '>' => "&gt;".toList
  | c => [c]

/-- What stands for a character of an attribute. -/
def attributeChar : Char → List Char
  | '"' => "&quot;".toList
  | '\r' => "&#13;".toList
  | '\n' => "&#10;".toList
  | '\t' => "&#09;".toList
  | c => textChar c

/-- An attribute behind a space. -/
def writeAttribute (name value : String) : List Char :=
  ' ' :: name.toList ++ "=\"".toList ++ value.toList.flatMap attributeChar ++ ['"']

/-- An element around its content; without content it is a single tag. -/
def writeElement (name : String) (attributes : List (String × String)) (content : List Char) :
    List Char :=
  let opening := '<' :: name.toList ++ attributes.flatMap fun (name, value) =>
    writeAttribute name value
  if content.isEmpty then opening ++ " />".toList
  else opening ++ '>' :: content ++ "</".toList ++ name.toList ++ ['>']

mutual

/-- A node as XML text with some prefixes; `declared` are the attributes that declare them, if that
is done here. -/
def Node.writeWith (prefixes : Prefixes) (declared : List (String × String)) : Node → List Char
  | .text content => content.toList.flatMap textChar
  | .element name attributes content =>
    let entries := attributes.map fun entry => (prefixes.qualified entry.name, entry.value)
    writeElement (prefixes.qualified name) (declared ++ entries) (writeAll prefixes content)

/-- Several nodes as XML text with prefixes that are declared around them. -/
def writeAll (prefixes : Prefixes) : List Node → List Char
  | [] => []
  | node :: rest => Node.writeWith prefixes [] node ++ writeAll prefixes rest

end

/-- A node as XML text that declares the prefixes that it needs. -/
def Node.write (node : Node) : List Char :=
  let prefixes := node.spaces.foldl Prefixes.use []
  node.writeWith prefixes prefixes.declarations

/-- The content of an element as XML text. -/
def Element.inner (element : Element) : List Char :=
  element.content.flatMap Node.write

end TypeExport.Xml

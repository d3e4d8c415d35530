import TypeExport.Text.LineEnd
import TypeExport.Xml.Doctype
import TypeExport.Xml.Scope

/-!
# Documents

A document has an optional declaration, an optional document type and a single root element;
comments and processing instructions may stand before, inside and behind it.

* `Tag`, `tag?` — the start of an element.
* `Surroundings` — what is known where an element starts.
* `element?`, `content?` — elements and what stands inside them.
* `Element.read?` — the root element of a text, if the text is a document.
-/

namespace TypeExport.Xml

open TypeExport.Text

/-! ### Tags -/

/-- The start of an element: its name, the texts of its attributes, and whether it is complete. -/
structure Tag where
  name : Written
  attributes : List (Written × List Char)
  isComplete : Bool

/-- An attribute at the head of a text. -/
def attributeEntry? (text : List Char) : Option ((Written × List Char) × List Char) := do
  let (name, rest) ← writtenName? text
  let rest ← behind? ['='] (skipSpace rest)
  match skipSpace rest with
  | quote :: rest =>
    if quote = '"' || quote = '\'' then
      let (value, rest) ← around? [quote] rest
      return ((name, value), rest)
    else none
  | [] => none

/-- The attributes of a tag and its end; there is space in front of every attribute. -/
def tagRest? : Nat → List Char → Option ((List (Written × List Char) × Bool) × List Char)
  | 0, _ => none
  | fuel + 1, text =>
    match skipSpace text with
    | '>' :: rest => some (([], false), rest)
    | '/' :: '>' :: rest => some (([], true), rest)
    | rest =>
      if text.head?.any isSpace then do
        let (entry, rest) ← attributeEntry? rest
        let ((entries, isComplete), rest) ← tagRest? fuel rest
        return ((entry :: entries, isComplete), rest)
      else none

/-- A tag at the head of a text, behind its first mark. -/
def tag? (text : List Char) : Option (Tag × List Char) := do
  let (name, rest) ← writtenName? text
  let ((attributes, isComplete), rest) ← tagRest? (rest.length + 1) rest
  return (⟨name, attributes, isComplete⟩, rest)

/-- The text behind the end tag of a name. -/
def behindEndTag? (name : Written) (text : List Char) : Option (List Char) := do
  let (written, rest) ← writtenName? (← behind? "</".toList text)
  if written = name then behind? ['>'] (skipSpace rest) else none

/-! ### Surroundings -/

/-- What is known where an element starts. -/
structure Surroundings where
  doctype : Doctype
  scope : Scope := Scope.outermost
  /-- The entities that the place is inside of. -/
  opened : List String := []

namespace Surroundings

/-- The attributes of a tag with their meanings: those that it has, none of them twice, and the
defaults of those that it lacks. -/
def attributes? (around : Surroundings) (tag : Tag) : Option (List (Written × String)) := do
  if Scope.hasRepetition (tag.attributes.map (·.1)) then none
  let given ← tag.attributes.mapM fun (name, text) => do
    let isTokenized := (around.doctype.rule? tag.name name).any (·.isTokenized)
    return (name, ← around.doctype.attribute? isTokenized text)
  let defaults := around.doctype.rules.filterMap fun rule =>
    if rule.element = tag.name && !(given.map (·.1)).contains rule.name then
      rule.default?.map (rule.name, ·)
    else none
  return given ++ defaults

/-- The name and the attributes of the element that a tag starts, and the surroundings in it. -/
def enter? (around : Surroundings) (tag : Tag) :
    Option (Name × List Attribute × Surroundings) := do
  let entries ← around.attributes? tag
  let scope ← around.scope.enter? entries
  return (← scope.elementName? tag.name, ← scope.attributes? entries, { around with scope })

/-- The text of an entity, and the surroundings in it.  No entity is inside itself. -/
def open? (around : Surroundings) (name : String) : Option (List Char × Surroundings) :=
  match around.doctype.entities.lookup name with
  | some (some text) =>
    if around.opened.contains name then none
    else some (text, { around with opened := name :: around.opened })
  | _ => none

end Surroundings

/-! ### Elements -/

/-- A text node, unless it is empty. -/
def textNodes (content : List Char) : List Node :=
  if content.isEmpty then [] else [.text (.ofList content)]

/-- A section of plain text whose beginning has been read. -/
def plainSection? (text : List Char) : Option (List Node × List Char) := do
  let (content, rest) ← around? "]]>".toList text
  if content.all isAllowed then some (textNodes content, rest) else none

/-- Character data without references and tags. -/
def plainText? (text : List Char) : Option (List Node) :=
  if text.all isAllowed && !occurs "]]>".toList text then some (textNodes text)
  else none

/-- A reference whose mark has been read. -/
def reference? (text : List Char) : Option (Piece × List Char) := do
  let (inside, rest) ← around? [';'] text
  return (← referent? inside, rest)

mutual

/-- The element whose tag starts behind its first mark, and the text behind the element. -/
def element? : Nat → Surroundings → List Char → Option (Element × List Char)
  | 0, _, _ => none
  | fuel + 1, around, text => do
    let (tag, rest) ← tag? text
    let (name, attributes, inside) ← around.enter? tag
    if tag.isComplete then return (⟨name, attributes, []⟩, rest)
    else
      let (content, rest) ← content? fuel inside rest
      return (⟨name, attributes, content⟩, ← behindEndTag? tag.name rest)

/-- What a piece of character data stands for; the text of an entity has to be complete. -/
def piece? : Nat → Surroundings → Piece → Option (List Node)
  | _, _, .char c => some [.text (.singleton c)]
  | 0, _, .entity _ => none
  | fuel + 1, around, .entity name =>
    match standardEntities.lookup name with
    | some c => some [.text (.singleton c)]
    | none => do
      let (text, inside) ← around.open? name
      let (content, rest) ← content? fuel inside text
      if rest.isEmpty then some content else none

/-- The nodes up to the next end tag or the end of the text, and what is left of the text there. -/
def content? : Nat → Surroundings → List Char → Option (List Node × List Char)
  | 0, _, _ => none
  | fuel + 1, around, text =>
    match aside? text, behind? "<![CDATA[".toList text, text with
    | some rest?, _, _ => rest?.bind (content? fuel around)
    | none, some rest, _ => do
      let (nodes, rest) ← plainSection? rest
      let (more, rest) ← content? fuel around rest
      return (nodes ++ more, rest)
    -- An end tag is left to the element that it closes.
    | none, none, [] | none, none, '<' :: '/' :: _ => some ([], text)
    | none, none, '<' :: rest => do
      let (element, rest) ← element? fuel around rest
      let (more, rest) ← content? fuel around rest
      return (.element element.name element.attributes element.content :: more, rest)
    | none, none, '&' :: rest => do
      let (piece, rest) ← reference? rest
      let nodes ← piece? fuel around piece
      let (more, rest) ← content? fuel around rest
      return (nodes ++ more, rest)
    | none, none, _ => do
      let isText := fun c => c ≠ '<' && c ≠ '&'
      let nodes ← plainText? (text.takeWhile isText)
      let (more, rest) ← content? fuel around (text.dropWhile isText)
      return (nodes ++ more, rest)

end

/-! ### Documents -/

/-- A character of a value in the declaration. -/
def isDeclarationChar (c : Char) : Bool :=
  c.isAlphanum || c == '.' || c == '-' || c == '_'

/-- The entries of the declaration, with space in front of each. -/
def declarationEntries? : Nat → List Char → Option (List (List Char × List Char))
  | 0, _ => none
  | fuel + 1, text =>
    let rest := skipSpace text
    if rest.isEmpty then some []
    else if !text.head?.any isSpace then none
    else do
      let name := rest.takeWhile fun c => c ≠ '=' && !isSpace c
      let rest ← behind? ['='] (skipSpace (rest.drop name.length))
      match skipSpace rest with
      | quote :: rest =>
        let (value, rest) ← around? [quote] rest
        if (quote = '"' || quote = '\'') && !name.isEmpty && value.all isDeclarationChar then
          return (name, value) :: (← declarationEntries? fuel rest)
        else none
      | [] => none

/-- The encoding that a declaration names; it starts with a letter. -/
def isEncoding (value : List Char) : Bool :=
  value.head?.any Char.isAlpha

/-- A value that says whether a document stands alone. -/
def isStandalone (value : List Char) : Bool :=
  value = "yes".toList || value = "no".toList

/-- The entries of a declaration after the version: first the encoding, then whether the document
stands alone, and both may be missing. -/
def isDeclarationTail : List (String × List Char) → Bool
  | [] => true
  | [("encoding", value)] => isEncoding value
  | [("standalone", value)] => isStandalone value
  | [("encoding", encoding), ("standalone", value)] => isEncoding encoding && isStandalone value
  | _ => false

/-- The entries form a declaration. -/
def isDeclaration : List (String × List Char) → Bool
  | ("version", _) :: rest => isDeclarationTail rest
  | _ => false

/-- Whether the document stands alone, and the text behind the declaration, if there is one and it
is well formed. -/
def declaration? (text : List Char) : Option (Bool × List Char) :=
  match behind? "<?xml".toList text with
  | none => some (false, text)
  | some rest =>
    if rest.head?.any isNamePart then some (false, text)
    else do
      let (content, rest) ← around? "?>".toList rest
      let entries ← declarationEntries? (content.length + 1) content
      let entries := entries.map fun (name, value) => (String.ofList name, value)
      if isDeclaration entries then some (entries.contains ("standalone", "yes".toList), rest)
      else none

/-- The text behind white space, comments and processing instructions. -/
def behindAsides? : Nat → List Char → Option (List Char)
  | 0, _ => none
  | fuel + 1, text =>
    let rest := skipSpace text
    match aside? rest with
    | none => some rest
    | some rest? => rest?.bind (behindAsides? fuel)

/-- The text without a byte order mark. -/
def withoutMark : List Char → List Char
  | '\ufeff' :: rest => rest
  | text => text

/-- The root element of a text, if the text is a document, in which every line end counts as a line
feed.  Every step reads some character of the text or of an entity that it is inside of, so all
their lengths together are fuel enough. -/
def Element.read? (text : String) : Option Element := do
  let chars := joinLineEnds (withoutMark text.toList)
  let fuel := chars.length + 1
  let (isAlone, rest) ← declaration? chars
  let (doctype, rest) ← doctype? isAlone (← behindAsides? fuel rest)
  let start ← behindAsides? fuel rest
  let (root, rest) ← element? (fuel + doctype.size) { doctype } (← behind? ['<'] start)
  if (← behindAsides? fuel rest).isEmpty then some root else none

end TypeExport.Xml

import PagePress.Xml.Value

/-!
# Start tags and namespaces

A start tag has attributes, each after a blank and with a name of its own.  Those that are called
`xmlns`, or have that before their colon, declare namespaces for the element and its content; the
others, with the defaults that the document type gives, are its attributes.

The name of an element or attribute in a namespace has the namespace before it in braces, so that it
is none of the plain names.
-/

set_option autoImplicit false

namespace PagePress.Xml

/-! ## Namespaces -/

/-- What stands before the colon of names, and the namespaces it means; nothing stands for the
namespace of names without a colon. -/
abbrev Scope := List (Text × Text)

/-- The namespace of a qualifier.  That of `xml` needs no declaration and goes by its qualifier. -/
def Scope.space? (scope : Scope) (qualifier : Text) : Option Text :=
  if qualifier == "xml" then some qualifier else scope.lookup qualifier

/-- A name in a namespace. -/
def inSpace (space name : Text) : Text :=
  if space.isEmpty then name else '{' :: space ++ '}' :: name

/-! ## Attributes -/

/-- An attribute with its namespace, if it has one. -/
structure SpacedAttribute where
  name : QName
  space : Option Text
  value : Text
  deriving DecidableEq, Repr

/-- Whether two attributes have the same name in the same namespace. -/
def SpacedAttribute.collides (a b : SpacedAttribute) : Bool :=
  a.name.base == b.name.base && a.space == b.space

/-- The attribute as it stands in an element. -/
def SpacedAttribute.plain (a : SpacedAttribute) : Attribute :=
  match a.space with
  | some space => ⟨inSpace space a.name.base, some a.value⟩
  | none => ⟨a.name.written, some a.value⟩

/-- A start tag. -/
structure StartTag where
  /-- The name as it is written. -/
  written : Text
  /-- The name in its namespace. -/
  tag : Text
  attrs : Attributes
  /-- The namespaces inside of the element. -/
  scope : Scope

namespace Reading

/-- Adds a namespace to those that an element declares, each once. -/
def addSpace (fresh : Scope) (qualifier space : Text) : Reading Scope := do
  guard (fresh.lookup qualifier).isNone
  return (qualifier, space) :: fresh

/-- Declares the namespace of names without a colon. -/
def declareDefault (fresh : Scope) (space : Text) : Reading Scope := do
  unless space.isEmpty do
    match Uri.ofText? space with
    | none => remark .fault
    | some uri => remarkIf uri.scheme.isNone .warning
  addSpace fresh [] space

/-- Declares the namespace of a qualifier. -/
def declareSpace (fresh : Scope) (qualifier space : Text) : Reading Scope := do
  if qualifier == "xml" then return fresh
  else if qualifier == "xmlns" || space.isEmpty then
    remark .fault
    return fresh
  else
    remarkIf (Uri.ofText? space).isNone .fault
    addSpace fresh qualifier space

/-- Reads an attribute of an element. -/
def writtenAttribute (levels : Nat) (element : QName) : Reading (QName × Text) := do
  let name ← qname
  spaces
  past "="
  spaces
  let value ← value levels
  let type := (← get).doctype.typeOf element.written name.written
  let value := if type == .anything then value else collapseSpaces value
  if name == ⟨some "xml", "space"⟩ then
    remarkIf (value != "default" && value != "preserve") .warning
  return (name, value)

/-- Reads the attributes of an element, after those that are read already, with the namespaces that
it declares. -/
def attributes (levels : Nat) (element : QName) :
    Nat → List (QName × Text) → Scope → Reading (List (QName × Text) × Scope)
  | 0, _, _ => failure
  | rounds + 1, attrs, fresh => do
    if Markup.tagEnds (← rest) then return (attrs.reverse, fresh)
    let (name, value) ← writtenAttribute levels element
    let (attrs, fresh) ←
      if name == ⟨none, "xmlns"⟩ then pure (attrs, ← declareDefault fresh value)
      else if name.qualifier == some "xmlns" then
        pure (attrs, ← declareSpace fresh name.base value)
      else pure ((name, value) :: attrs, fresh)
    let hadSpaces ← trySpaces
    guard (hadSpaces || Markup.tagEnds (← rest))
    attributes levels element rounds attrs fresh

/-- Finds the namespace of an attribute. -/
def place (scope : Scope) (name : QName) (value : Text) : Reading SpacedAttribute := do
  match name.qualifier with
  | none => return ⟨name, none, value⟩
  | some q =>
    let space := scope.space? q
    remarkIf space.isNone .fault
    return ⟨name, space, value⟩

/-- Checks that no attribute comes twice.  Under the same name that breaks the rules. -/
def checkUnique : List SpacedAttribute → Reading Unit
  | [] => return
  | a :: rest => do
    let rivals := rest.filter a.collides
    guard (rivals.all fun b => b.name.qualifier != a.name.qualifier)
    remarkIf (!rivals.isEmpty) .fault
    checkUnique rest

/-- Adds the attributes that have defaults and are not written. -/
def addDefaults (scope : Scope) :
    List (QName × Text) → List SpacedAttribute → Reading (List SpacedAttribute)
  | [], attrs => return attrs
  | (name, value) :: defaults, attrs => do
    let a ← place scope name value
    match attrs.find? a.collides with
    | none => addDefaults scope defaults (attrs ++ [a])
    | some b =>
      remarkIf (a.name.qualifier != b.name.qualifier) .fault
      addDefaults scope defaults attrs

/-- Notes the identifier of an element, which no other should have. -/
def noteId (id : Text) : Reading Unit := do
  let ids := (← get).ids
  if ids.contains id then remark .fault
  else modify fun s => { s with ids := if id.isEmpty then ids else id :: ids }

/-- Notes the identifiers among the attributes of an element. -/
def noteIds (element : QName) (attrs : List SpacedAttribute) : Reading Unit := do
  unless (← get).isInner do
    for a in attrs do
      if a.name == ⟨some "xml", "id"⟩ then
        remarkIf (!isPlainName a.value) .fault
        noteId a.value
      else if (← get).doctype.typeOf element.written a.name.written == .id then noteId a.value

/-- The namespace of an element. -/
def elementSpace (scope : Scope) (name : QName) : Reading (Option Text) := do
  match name.qualifier with
  | none => return scope.lookup []
  | some q =>
    let space := scope.space? q
    remarkIf space.isNone .fault
    return space

/-- The defaults of an element, by their names. -/
def defaultsOf (element : QName) : Reading (List (QName × Text)) := do
  let defaults := (← get).doctype.defaults element.written
  return defaults.map fun (name, value) => ((QName.ofName? name).getD ⟨none, name⟩, value)

/-- The namespaces that the defaults of an element declare, after those that it declares itself. -/
def defaultSpaces (fresh : Scope) (defaults : List (QName × Text)) : Scope :=
  defaults.foldl (fun scope (name, value) =>
    let add (qualifier : Text) : Scope :=
      if (scope.lookup qualifier).isSome then scope else (qualifier, value) :: scope
    if name == ⟨none, "xmlns"⟩ then add []
    else if name.qualifier == some "xmlns" then add name.base
    else scope) fresh

/-- Reads a start tag after its opening mark, up to its closing mark. -/
def startTag (levels : Nat) (scope : Scope) : Reading StartTag := do
  let name ← qname
  spaces
  let (attrs, fresh) ← attributes levels name ((← rest).length + 1) [] []
  let defaults ← defaultsOf name
  let scope := defaultSpaces fresh defaults ++ scope
  let attrs ← attrs.mapM fun (name, value) => place scope name value
  checkUnique attrs
  let isSpace (n : QName) : Bool := n == ⟨none, "xmlns"⟩ || n.qualifier == some "xmlns"
  let attrs ← addDefaults scope (defaults.filter fun (name, _) => !isSpace name) attrs
  let space ← elementSpace scope name
  noteIds name attrs
  let tag := match space with
    | some space => inSpace space name.base
    | none => name.written
  return ⟨name.written, tag, attrs.map SpacedAttribute.plain, scope⟩

end Reading

end PagePress.Xml

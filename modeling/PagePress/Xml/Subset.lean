import PagePress.Xml.Value

/-!
# Document types

`Reading.doctype` reads a document type with the declarations in it: entities, attributes, elements
and notations, and parameters, whose text is declarations in turn.  The text of something outside of
the page is never read.
-/

set_option autoImplicit false

namespace PagePress.Xml.Reading

/-- Changes what is declared. -/
def declare (f : Doctype → Doctype) : Reading Unit :=
  modify fun s => { s with doctype := f s.doctype }

/-! ## Identifiers of what is outside -/

/-- The characters of public identifiers. -/
def isPublicChar (c : Char) : Bool := c.isAlphanum || " \r\n-'()+,./:=?;!*#@$_%".contains c

/-- Where something outside of the page is found. -/
structure Outside where
  address : Option Text

/-- Reads where something is found, if it is outside.  Where `isStrict` does not hold, an identifier
without an address is enough. -/
def outside? (isStrict : Bool) : Reading (Option Outside) := do
  if ← tryPast "SYSTEM" then
    needSpaces
    return some ⟨some (← quoted)⟩
  else if ← tryPast "PUBLIC" then
    needSpaces
    guard ((← quoted).all isPublicChar)
    let hadSpaces ← trySpaces
    let isQuoted := (← next?).any fun c => c == '"' || c == '\''
    if isStrict || (hadSpaces && isQuoted) then
      guard hadSpaces
      return some ⟨some (← quoted)⟩
    else return some ⟨none⟩
  else return none

/-- Checks the address of an entity, which may not point to a part of something; tells whether it is
one. -/
def checkAddress (address : Text) : Reading Bool := do
  match Uri.ofText? address with
  | none =>
    remark .fault
    return false
  | some uri =>
    guard (!uri.hasPart)
    return true

/-! ## Entities -/

/-- Declares an entity, if it is not yet declared.  A text for what is known to be outside breaks
the rules. -/
def declareEntity (name : Text) (entity : Entity) : Reading Unit := do
  match (← get).doctype.entities.lookup name with
  | none => declare fun d => { d with entities := d.entities ++ [(name, entity)] }
  | some known => guard (known != .outside || entity == .outside)

/-- Declares a parameter, if it is not yet declared. -/
def declareParameter (name : Text) (entity : Entity) : Reading Unit := do
  if ((← get).doctype.parameters.lookup name).isNone then
    declare fun d => { d with parameters := d.parameters ++ [(name, entity)] }

/-- Whether a quote is next. -/
def seesQuote : Reading Bool := do
  return (← next?).any fun c => c == '"' || c == '\''

/-- Reads the name of a declared thing, which has no colon, and the blanks around it. -/
def declaredName : Reading Text := do
  let name ← name
  remarkIf (name.contains ':') .fault
  needSpaces
  return name

/-- Reads what an entity is declared as. -/
def entityBody (inParameter : Bool) (name : Text) : Reading Unit := do
  if ← seesQuote then declareEntity name (.given (← entityValue inParameter))
  else
    let some ⟨some address⟩ ← outside? true | failure
    let _ ← checkAddress address
    let hadSpaces ← trySpaces
    unless ← sees ">" do
      guard hadSpaces
      if ← tryPast "NDATA" then
        needSpaces
        let _ ← Reading.name
    declareEntity name .outside

/-- Reads what a parameter is declared as. -/
def parameterBody (inParameter : Bool) (name : Text) : Reading Unit := do
  if ← seesQuote then declareParameter name (.given (← entityValue inParameter))
  else
    let some ⟨some address⟩ ← outside? true | failure
    if ← checkAddress address then declareParameter name .outside

/-- Reads the declaration of an entity or a parameter after its keyword. -/
def entityDeclaration (inParameter : Bool) : Reading Unit := do
  needSpaces
  if ← tryPast "%" then
    needSpaces
    parameterBody inParameter (← declaredName)
  else entityBody inParameter (← declaredName)
  spaces
  past ">"

/-! ## Attributes -/

/-- Reads items with bars between them up to a closing bracket, in at most so many rounds. -/
def alternatives (item : Reading Text) : Nat → Reading (List Text)
  | 0 => failure
  | rounds + 1 => do
    spaces
    let first ← item
    spaces
    if ← tryPast "|" then return first :: (← alternatives item rounds)
    past ")"
    return [first]

/-- Reads items in brackets, each of which should come once. -/
def choice (item : Reading Text) : Reading Unit := do
  past "("
  let items ← alternatives item ((← rest).length + 1)
  remarkIf (items.eraseDups.length != items.length) .fault

/-- The words for the types of attributes, a longer word before its beginnings. -/
def typeWords : List (Text × AttributeType) := [
  ("CDATA", .anything), ("IDREFS", .references), ("IDREF", .reference), ("ID", .id),
  ("ENTITY", .entity), ("ENTITIES", .entities), ("NMTOKENS", .tokens), ("NMTOKEN", .token)]

/-- Reads the type of an attribute. -/
def attributeType : Reading AttributeType := do
  let t ← rest
  match typeWords.find? fun (word, _) => (Text.after? word t).isSome with
  | some (word, type) =>
    past word
    return type
  | none =>
    if ← tryPast "NOTATION" then
      needSpaces
      choice name
      return .notationName
    else
      choice (part token?)
      return .enumeration

/-- Reads the default of an attribute of a type. -/
def attributeDefault (type : AttributeType) : Reading (Option Text) := do
  if ← tryPast "#REQUIRED" then return none
  if ← tryPast "#IMPLIED" then return none
  if ← tryPast "#FIXED" then needSpaces
  let value ← value maxLevels
  return some (if type == .anything then value else collapseSpaces value)

/-- Declares an attribute, if it is not yet declared, and remarks on what is wrong with it. -/
def declareAttribute (rule : AttributeRule) : Reading Unit := do
  remarkIf (rule.name == "xml:id" && rule.type != .id) .fault
  remarkIf (rule.default.any fun value => !rule.type.admits value) .fault
  let known := (← get).doctype.attributes
  if ((← get).doctype.rule? rule.element rule.name).isSome then remark .warning
  else
    let hasId := known.any fun r => r.element == rule.element && r.type == .id
    remarkIf (rule.type == .id && hasId) .fault
    declare fun d => { d with attributes := d.attributes ++ [rule] }

/-- Reads the attributes of an element up to the end of their declaration. -/
def attributeRules (element : Text) : Nat → Reading Unit
  | 0 => failure
  | rounds + 1 => do
    unless ← tryPast ">" do
      let name ← name
      needSpaces
      let type ← attributeType
      needSpaces
      let default ← attributeDefault type
      let hadSpaces ← trySpaces
      guard (hadSpaces || (← sees ">"))
      declareAttribute ⟨element, name, type, default⟩
      attributeRules element rounds

/-- Reads the declaration of attributes after its keyword. -/
def attributeDeclaration : Reading Unit := do
  needSpaces
  let element ← name
  spaces
  attributeRules element ((← rest).length + 1)

/-! ## Elements and notations -/

/-- The number of groups inside of each other that the content of an element may have. -/
def maxGroups : Nat := 128

/-- Passes over the mark that says how often something comes. -/
def occurrence : Reading Unit := do
  if (← next?).any fun c => c == '?' || c == '*' || c == '+' then goTo ((← rest).drop 1)

mutual

/-- Reads a name or a group of names, at some depth and in at most so many rounds. -/
def contentPart : Nat → Nat → Reading Unit
  | 0, _ => failure
  | rounds + 1, depth => do
    if ← tryPast "(" then
      guard (depth < maxGroups)
      contentGroup rounds (depth + 1) none
    else
      let _ ← name
      occurrence

/-- Reads a group after its opening bracket.  All its parts have the same mark between them. -/
def contentGroup : Nat → Nat → Option Char → Reading Unit
  | 0, _, _ => failure
  | rounds + 1, depth, mark => do
    spaces
    contentPart rounds depth
    spaces
    if ← tryPast ")" then occurrence
    else
      let some c ← next? | failure
      guard ((c == ',' || c == '|') && mark.all (· == c))
      goTo ((← rest).drop 1)
      contentGroup rounds depth (some c)

end

/-- Reads content of text and elements, after the word for text. -/
def mixedContent : Reading Unit := do
  spaces
  if ← tryPast "|" then
    let _ ← alternatives name ((← rest).length + 1)
    past "*"
  else
    past ")"
    let _ ← tryPast "*"

/-- Reads what an element may hold. -/
def contentModel : Reading Unit := do
  unless (← tryPast "EMPTY") || (← tryPast "ANY") do
    past "("
    spaces
    if ← tryPast "#PCDATA" then mixedContent
    else contentGroup (2 * (← rest).length + 2) 1 none

/-- Reads the declaration of an element after its keyword; a second one for a name is a fault. -/
def elementDeclaration : Reading Unit := do
  needSpaces
  let name ← name
  needSpaces
  contentModel
  spaces
  past ">"
  if (← get).doctype.elements.contains name then remark .fault
  else declare fun d => { d with elements := name :: d.elements }

/-- Reads the declaration of a notation after its keyword. -/
def notationDeclaration : Reading Unit := do
  needSpaces
  let _ ← declaredName
  let some _ ← outside? false | failure
  spaces
  past ">"

/-! ## All declarations -/

/-- Reads a declaration after its opening mark.  What is none is left for what comes next. -/
def declaration (inParameter : Bool) : Reading Unit := do
  if ← tryPast "ENTITY" then entityDeclaration inParameter
  else if ← tryPast "ATTLIST" then attributeDeclaration
  else if ← tryPast "ELEMENT" then elementDeclaration
  else if ← tryPast "NOTATION" then notationDeclaration
  else if ← tryPast "--" then comment

/-- Reads the declarations that a parameter stands for.  `expand` reads its text. -/
def parameter (expand : Text → Reading Unit) : Reading Unit := do
  let name ← name
  past ";"
  declare fun d => { d with hasParameters := true }
  let doctype := (← get).doctype
  match doctype.parameters.lookup name with
  | some (.given t) =>
    charge (cost t)
    expand t
  | some .outside => remark .warning
  | none =>
    guard (!doctype.isStandalone)
    remark .warning

/-- Reads declarations up to a closing bracket or, in the text of a parameter, to its end. -/
def declarations (expand : Text → Reading Unit) (inParameter : Bool) : Nat → Reading Unit
  | 0 => failure
  | rounds + 1 => do
    spaces
    let t ← rest
    let isEnd := if inParameter then t.isEmpty else t.head? == some ']'
    unless isEnd do
      if ← tryPast "<!" then declaration inParameter
      else if ← tryPast "<?" then instruction
      else
        past "%"
        parameter expand
      declarations expand inParameter rounds

/-- Reads the text of a parameter as declarations, at most so many levels deep. -/
def parameterText : Nat → Text → Reading Unit
  | 0, _ => failure
  | levels + 1, t => inText t (declarations (parameterText levels) true (t.length + 1))

/-- Reads a document type, if there is one.  Its declarations may also stand right after its
end. -/
def doctype : Reading Unit := do
  if ← tryPast "<!DOCTYPE" then
    spaces
    let _ ← name
    spaces
    let outside ← outside? true
    declare fun d => { d with hasOutside := outside.isSome }
    spaces
    let isClosed ← tryPast ">"
    if ← tryPast "[" then
      declarations (parameterText maxLevels) false ((← rest).length + 1)
      past "]"
      spaces
      past ">"
    else guard isClosed

end PagePress.Xml.Reading

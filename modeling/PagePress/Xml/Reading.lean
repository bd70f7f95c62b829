import PagePress.Element
import PagePress.Markup.Tag
import PagePress.Xml.Name

/-!
# Reading strictly

A `Reading` goes ahead in a text and either gives a value or fails: a break of the rules of
well-formed markup ends it.  On other shortcomings it only remarks, and what counts in the end is
how grave the last remark is.

* `Doctype` is what a document type declares.
* `State` is the text that is left with all that is known at a place of it.
* `Reading` has the steps that all readers are made of.
-/

set_option autoImplicit false

namespace PagePress.Xml

/-! ## Declarations -/

/-- What a name stands for in references. -/
inductive Entity where
  /-- Text that is given in the document type. -/
  | given (t : Text)
  /-- Something outside of the page. -/
  | outside
  deriving DecidableEq, Repr

/-- The values that an attribute may have. -/
inductive AttributeType where
  | anything
  | id
  | reference
  | references
  | entity
  | entities
  | token
  | tokens
  | notationName
  | enumeration
  deriving DecidableEq, Repr

/-- Whether a value has the form of a type. -/
def AttributeType.admits (type : AttributeType) (value : Text) : Bool :=
  match type with
  | .anything => true
  | .references | .entities => (Text.splitOn ' ' value).all isName
  | .reference | .entity | .id | .notationName => isName value
  | .tokens | .enumeration => (Text.splitOn ' ' value).all isToken
  | .token => isToken value

/-- A declared attribute of an element. -/
structure AttributeRule where
  element : Text
  name : Text
  type : AttributeType
  /-- The value where none is written. -/
  default : Option Text
  deriving DecidableEq, Repr

/-- What a document type declares; of two declarations of a name the first counts. -/
structure Doctype where
  entities : List (Text × Entity) := []
  parameters : List (Text × Entity) := []
  elements : List Text := []
  attributes : List AttributeRule := []
  isStandalone : Bool := false
  hasOutside : Bool := false
  hasParameters : Bool := false
  deriving DecidableEq, Repr

namespace Doctype

/-- Whether names may be declared elsewhere, so that one without a declaration is no break of the
rules. -/
def isOpen (d : Doctype) : Bool := !d.isStandalone && (d.hasOutside || d.hasParameters)

/-- The declaration of an attribute. -/
def rule? (d : Doctype) (element name : Text) : Option AttributeRule :=
  d.attributes.find? fun rule => rule.element == element && rule.name == name

/-- The type of an attribute. -/
def typeOf (d : Doctype) (element name : Text) : AttributeType :=
  match d.rule? element name with
  | none => .anything
  | some rule => rule.type

/-- The attributes of an element that have values where none are written. -/
def defaults (d : Doctype) (element : Text) : List (Text × Text) :=
  (d.attributes.filter fun rule => rule.element == element).filterMap fun rule =>
    rule.default.map fun value => (rule.name, value)

end Doctype

/-! ## States -/

/-- How grave a remark is. -/
inductive Grade where
  | warning
  | fault
  deriving DecidableEq, Repr

/-- The text that is left, and what is known where it begins. -/
structure State where
  rest : Text
  doctype : Doctype := {}
  /-- How grave the last remark is. -/
  remark : Option Grade := none
  /-- Whether the text is that of an entity. -/
  isInner : Bool := false
  /-- The identifiers of the elements so far. -/
  ids : List Text := []
  /-- The content of the entities that were read, and what a reference to each counts for. -/
  known : List (Text × List Node × Nat) := []
  /-- The size of all that references stand for, so far. -/
  expanded : Nat := 0
  /-- The size of the page. -/
  size : Nat

/-- A step that goes ahead in a text, or fails. -/
abbrev Reading := StateT State Option

namespace Reading

/-- The text that is left. -/
def rest : Reading Text := do return (← get).rest

/-- Goes to where the given text is left. -/
def goTo (t : Text) : Reading Unit := modify fun s => { s with rest := t }

/-- The next character. -/
def next? : Reading (Option Char) := do return (← rest).head?

/-- Whether a text stands next. -/
def sees (p : Text) : Reading Bool := do return (Text.after? p (← rest)).isSome

/-- Passes over a text if it stands next, and tells whether it does. -/
def tryPast (p : Text) : Reading Bool := do
  match Text.after? p (← rest) with
  | some t =>
    goTo t
    return true
  | none => return false

/-- Passes over a text that must stand next. -/
def past (p : Text) : Reading Unit := do
  guard (← tryPast p)

/-- Does what reads a part of a text off its start. -/
def part {α : Type} (f : Text → Option (α × Text)) : Reading α := do
  let some (a, t) := f (← rest) | failure
  goTo t
  return a

/-- Passes over blanks, and tells whether there are any. -/
def trySpaces : Reading Bool := do
  let t ← rest
  goTo (Markup.skipSpaces t)
  return t.head?.any Markup.isSpace

/-- Passes over blanks. -/
def spaces : Reading Unit := do
  let _ ← trySpaces

/-- Passes over blanks that must be there. -/
def needSpaces : Reading Unit := do
  guard (← trySpaces)

/-- Remarks on something. -/
def remark (grade : Grade) : Reading Unit := modify fun s => { s with remark := some grade }

/-- Remarks on something if a condition holds. -/
def remarkIf (condition : Bool) (grade : Grade) : Reading Unit := do
  if condition then remark grade

/-! ## Parts of all markup -/

/-- Whether all characters of a text may stand in a page. -/
def isClean (t : Text) : Bool := t.all fun c => Markup.isPageChar c.toNat

/-- Reads the text up to an ending, and passes over that. -/
def upTo (ending : Text) : Reading Text := do
  let t ← part (Text.cut? ending)
  guard (isClean t)
  return t

/-- Reads a text in quotes. -/
def quoted : Reading Text := do
  if ← tryPast "\"" then upTo "\""
  else
    past "'"
    upTo "'"

/-- Reads a name. -/
def name : Reading Text := part name?

/-- Reads a name in two parts; one that has none such is taken as a whole. -/
def qname : Reading QName := do
  let name ← name
  match QName.ofName? name with
  | some n => return n
  | none =>
    remark .fault
    return ⟨none, name⟩

/-- Reads a comment after its opening mark; two hyphens only end it. -/
def comment : Reading Unit := do
  let _ ← upTo "--"
  past ">"

/-- The names of instructions that are reserved and have a meaning. -/
def knownTargets : List Text := ["xml-stylesheet", "xml-model"]

/-- Checks the name of an instruction. -/
def checkTarget (target : Text) : Reading Unit := do
  let start := (target.take 3).map Char.toLower
  if start == "xml" then
    guard (target.length != 3)
    remarkIf (!knownTargets.contains target) .warning
  remarkIf (target.contains ':') .fault

/-- Reads an instruction after its opening mark. -/
def instruction : Reading Unit := do
  checkTarget (← name)
  unless ← tryPast "?>" do
    needSpaces
    let _ ← upTo "?>"

/-! ## Texts inside of texts -/

/-- The number of references inside of each other. -/
def maxLevels : Nat := 40

/-- The size up to which references may stand for anything. -/
def freeExpansion : Nat := 1000000

/-- The number of times the size of the page that references may stand for beyond that. -/
def expansionFactor : Nat := 5

/-- What a reference to a text counts for. -/
def cost (t : Text) : Nat := byteSize t + 20

/-- Counts a reference; all references together may not stand for too much. -/
def charge (cost : Nat) : Reading Unit := do
  let s ← get
  let expanded := s.expanded + cost
  guard (expanded ≤ freeExpansion || expanded ≤ expansionFactor * s.size)
  set { s with expanded := expanded }

/-- Reads another text to its end, and then goes on where it was. -/
def inText {α : Type} (t : Text) (reading : Reading α) : Reading α := do
  let outer ← rest
  goTo t
  let a ← reading
  guard (← rest).isEmpty
  goTo outer
  return a

/-- Reads the text of an entity; what is remarked on it does not count. -/
def apart {α : Type} (reading : Reading α) : Reading α := do
  let outer ← get
  set { outer with isInner := true }
  let a ← reading
  modify fun s => { s with isInner := outer.isInner, remark := outer.remark }
  return a

/-- What a name stands for, if it is declared.  A name without a declaration is only a fault if it
may be declared elsewhere, and something outside of the page is never read. -/
def entityText? (name : Text) : Reading (Option Text) := do
  let s ← get
  match s.doctype.entities.lookup name with
  | some (.given t) => return some t
  | some .outside => failure
  | none =>
    guard (s.doctype.isOpen && !s.isInner)
    remark .fault
    return none

end Reading

end PagePress.Xml

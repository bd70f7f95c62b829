import PagePress.Attribute.Basic

/-!
# Kinds of attributes

What a value may lose depends on what the attribute is for, and that is read off the tag and the
lower-cased name: event handlers, addresses, numbers, flags, and the names that say nothing when the
value is empty.  `redundancy` classifies the attributes that say what holds anyway; for two of them
that depends on another attribute of the same tag.
-/

set_option autoImplicit false

namespace PagePress.Attribute

/-- Event handlers: `on` and one or more small letters. -/
def isEvent : Text → Bool
  | 'o' :: 'n' :: rest => !rest.isEmpty && rest.all fun c => 'a' ≤ c && c ≤ 'z'
  | _ => false

/-- The names of flags: their presence says all. -/
def flagNames : List Text := ["checked", "disabled", "selected", "readonly"]

/-- Attributes whose presence says all. -/
def isFlag (name : Text) : Bool := flagNames.contains name

/-- Tags and names of the attributes that hold an address. -/
def addressAttributes : List (Text × Text) := [
  ("a", "href"), ("area", "href"), ("link", "href"), ("base", "href"),
  ("img", "src"), ("img", "longdesc"), ("img", "usemap"),
  ("object", "classid"), ("object", "codebase"), ("object", "data"), ("object", "usemap"),
  ("q", "cite"), ("blockquote", "cite"), ("ins", "cite"), ("del", "cite"),
  ("form", "action"), ("input", "src"), ("input", "usemap"), ("head", "profile"),
  ("script", "src"), ("script", "for")]

/-- Attributes that hold an address. -/
def isAddress (tag name : Text) : Bool := addressAttributes.contains (tag, name)

/-- Tags and names of the attributes that hold a number. -/
def numberAttributes : List (Text × Text) := [
  ("a", "tabindex"), ("area", "tabindex"), ("object", "tabindex"), ("button", "tabindex"),
  ("input", "maxlength"), ("input", "tabindex"), ("select", "size"), ("select", "tabindex"),
  ("textarea", "rows"), ("textarea", "cols"), ("textarea", "tabindex"),
  ("colgroup", "span"), ("col", "span"), ("td", "rowspan")]

/-- Attributes that hold a number.  Every attribute of a header cell counts as one, and a column
span does on every tag. -/
def isNumber (tag name : Text) : Bool :=
  numberAttributes.contains (tag, name) || tag == "th" || name == "colspan"

/-! ## Attributes that can be dropped -/

/-- When an attribute says what holds anyway. -/
inductive Redundancy where
  /-- In no case. -/
  | never
  /-- In every case. -/
  | always
  /-- If the tag has no attribute of that name. -/
  | without (sibling : Text)
  /-- If the tag has an attribute of that name. -/
  | beside (sibling : Text)
  deriving DecidableEq, Repr

/-- The value as it is compared: lower-cased and without blanks at its ends. -/
def comparable (value : Text) : Text := value.lower.strip

/-- Tag, name and compared value of the attributes that are redundant in every case. -/
def defaults : List (Text × Text × Text) := [
  ("script", "language", "javascript"), ("form", "method", "get"), ("input", "type", "text"),
  ("area", "shape", "rect")]

/-- When an attribute says what holds anyway. -/
def redundancy (tag name value : Text) : Redundancy :=
  if defaults.contains (tag, name, comparable value) then .always
  else if tag == "script" && name == "charset" then .without "src"
  else if tag == "a" && name == "name" then .beside "id"
  else .never

/-- Whether one of the names, in any letter case, is the given one. -/
def nameIn (names : List Text) (name : Text) : Bool := names.any (·.lower == name)

/-- Whether an attribute is redundant beside attributes of the given names. -/
def Redundancy.holds (names : List Text) : Redundancy → Bool
  | .never => false
  | .always => true
  | .without sibling => !nameIn names sibling
  | .beside sibling => nameIn names sibling

/-- The type of a script that is the usual one. -/
def isUsualScriptType (tag name value : Text) : Bool :=
  tag == "script" && name == "type" && comparable value == "text/javascript"

/-- The type of a style or link that is the usual one. -/
def isUsualStyleType (tag name value : Text) : Bool :=
  (tag == "style" || tag == "link") && name == "type" && comparable value == "text/css"

/-- The names of attributes that say nothing when empty. -/
def idleNames : List Text := [
  "class", "id", "style", "title", "lang", "dir",
  "onfocus", "onblur", "onchange", "onclick", "ondblclick",
  "onmouseup", "onmouseover", "onmousemove", "onmouseout",
  "onkeypress", "onkeydown", "onkeyup"]

/-- The one name with a gap: `onmouse`, an apostrophe, two or more spaces, perhaps an apostrophe,
and `:down`. -/
def isGappedName (name : Text) : Bool :=
  match Text.after? "onmouse'" name with
  | none => false
  | some rest =>
    let spaces := rest.takeWhile (· == ' ')
    let tail := rest.dropWhile (· == ' ')
    decide (2 ≤ spaces.length) && (tail == ":down" || tail == "':down")

/-- Names of attributes that say nothing when empty; one final line feed is let pass. -/
def isIdleWhenEmpty (name : Text) : Bool :=
  let name := Text.dropFinalNewline name
  idleNames.contains name || isGappedName name

/-- A pair of like quotes around nothing but blanks; one final line feed is let pass. -/
def isEmptyQuoted (value : Text) : Bool :=
  match Text.dropFinalNewline value with
  | q :: rest =>
    (q == '"' || q == '\'') && rest.getLast? == some q && Text.allBlank rest.dropLast
  | [] => false

/-- Whether an attribute with the written value can be dropped because it is empty. -/
def isDroppable (tag name written : Text) : Bool :=
  isEmptyQuoted written && ((tag == "input" && name == "value") || isIdleWhenEmpty name)

end PagePress.Attribute

import PagePress.Attribute.Kind
import PagePress.Fault
import PagePress.Options

/-!
# How an attribute is written

`clean` takes off a value what it can lose for its kind.  `fragment` is the text of one attribute in
a start tag: empty if the attribute is dropped, otherwise a space and the name, with the value after
an equals sign unless the name says all.
-/

set_option autoImplicit false

namespace PagePress

namespace Attribute

/-- The value without the script scheme at its start and the blanks after that. -/
def dropScheme (value : Text) : Text :=
  match Text.after? "javascript:" value with
  | some rest => Text.stripStart rest
  | none => value

/-- The value without a final semicolon and the blanks before that. -/
def dropFinalSemicolon (value : Text) : Text :=
  if value.getLast? == some ';' then Text.stripEnd value.dropLast else value

/-- The value without what it can lose for its kind. -/
def clean (tag name value : Text) : Text :=
  if isEvent name then dropFinalSemicolon (dropScheme (Text.strip value))
  else if name == "class" then Text.collapse (Text.strip value)
  else if isAddress tag name || isNumber tag name then Text.strip value
  else if name == "style" then dropFinalSemicolon (Text.strip value)
  else value

/-- The characters of a value that stands without quotes. -/
def isBare (c : Char) : Bool :=
  c.isAlphanum || c == '-' || c == '.' || c == '_' || c == ':'

/-- Whether a value can stand without quotes; one final line feed is let pass. -/
def canUnquote (value : Text) : Bool :=
  let value := Text.dropFinalNewline value
  !value.isEmpty && value.all isBare

/-- The value as it is written, with or without quotes. -/
def written (o : Options) (value : Text) : Text :=
  if o.removeAttributeQuotes && canUnquote value then value else '"' :: value ++ ['"']

/-- Whether the attribute is dropped for what it says.  Where that depends on the other attributes
of the tag, there is no answer. -/
def isSuperfluous (o : Options) (tag name value : Text) : Except Fault Bool :=
  let byType :=
    (o.removeScriptTypeAttributes && isUsualScriptType tag name value) ||
      (o.removeStyleLinkTypeAttributes && isUsualStyleType tag name value)
  if o.removeRedundantAttributes then
    match redundancy tag name value with
    | .always => .ok true
    | .never => .ok byType
    | .without _ | .beside _ => .error .siblingsUnreadable
  else .ok byType

/-- The text of an attribute that is not superfluous. -/
def fragmentOf (o : Options) (tag name value : Text) : Text :=
  let value := written o (clean tag name value)
  if o.removeEmptyAttributes && isDroppable tag name value then []
  else if o.collapseBooleanAttributes && isFlag name then ' ' :: name
  else ' ' :: name ++ '=' :: value

/-- The text of an attribute in the start tag of an element; empty if the attribute is dropped. -/
def fragment (o : Options) (tag : Text) (a : Attribute) : Except Fault Text :=
  let name := a.name.lower
  let value := a.value.getD []
  match isSuperfluous o tag name value with
  | .error fault => .error fault
  | .ok true => .ok []
  | .ok false => .ok (fragmentOf o tag name value)

end Attribute

/-- The text of the attribute of a name among the attributes of an element. -/
def Attributes.fragment (o : Options) (attrs : Attributes) (tag name : Text) : Except Fault Text :=
  match attrs.get? name with
  | none => .error (.noEntry name)
  | some a => a.fragment o tag

end PagePress

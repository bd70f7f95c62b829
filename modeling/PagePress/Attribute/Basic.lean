import PagePress.Text.Case

/-!
# Attributes

An `Attribute` is a name with a value, or without one.  The attributes of a tag have different
names; `Attributes.ofPairs` makes them so, where a name that comes again keeps its first place and
takes its last value.
-/

set_option autoImplicit false

namespace PagePress

/-- An attribute of a tag. -/
structure Attribute where
  name : Text
  value : Option Text
  deriving DecidableEq, Repr

/-- The attributes of a tag, in order. -/
abbrev Attributes := List Attribute

namespace Attributes

/-- The attributes with a value under a name; a name that is there keeps its place. -/
def put : Attributes → Attribute → Attributes
  | [], a => [a]
  | b :: rest, a => if b.name == a.name then a :: rest else b :: put rest a

/-- The attributes of a list in which names may come again. -/
def ofPairs (pairs : List Attribute) : Attributes := pairs.foldl put []

/-- The attribute of that very name. -/
def get? (attrs : Attributes) (name : Text) : Option Attribute := attrs.find? (·.name == name)

/-- Whether there is an attribute of that very name. -/
def has (attrs : Attributes) (name : Text) : Bool := attrs.any (·.name == name)

end Attributes

end PagePress

import PagePress.Attribute.Basic

/-!
# Events of a page

A page is read as a list of events: start tags, end tags, texts and comments, in order.
-/

set_option autoImplicit false

namespace PagePress

/-- What a reader of a page tells. -/
inductive Event where
  /-- A start tag. -/
  | start (tag : Text) (attrs : Attributes)
  /-- An end tag. -/
  | finish (tag : Text)
  /-- A piece of text, which may be missing. -/
  | data (text : Option Text)
  /-- A comment. -/
  | comment (text : Text)
  deriving DecidableEq, Repr

end PagePress

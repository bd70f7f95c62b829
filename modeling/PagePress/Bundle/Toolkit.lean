import PagePress.Element
import PagePress.Markup.Tree
import PagePress.Service

/-!
# What bundling is done with

Bundling reads pages and takes the text of elements in ways that are not its own, and has styles
compacted.  A `Toolkit` is any choice of these functions; the fields say which are in use.
-/

set_option autoImplicit false

namespace PagePress

/-- The functions that bundling is done with. -/
structure Toolkit where
  /-- The part of a page in which resources are looked for. -/
  document : Text → Except Fault (List Node) := Markup.document
  /-- The text of an element. -/
  inlineText : Node → Text := Node.inlineText
  compactors : Compactors := {}

end PagePress

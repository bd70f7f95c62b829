import PagePress.Markup.Reader
import PagePress.Page

/-!
# Minifying a text

`minify` is the whole way from the text of a page to its minified text, for a page on its own.
-/

set_option autoImplicit false

namespace PagePress

/-- Minifies the text of a page on its own.  Nothing is minified of an empty text. -/
def minify (tools : Tools) (o : Options) (t : Text) : Except Fault Text :=
  if t.isEmpty then .error .nothingMinified
  else
    match Markup.read t with
    | .error fault => .error fault
    | .ok events =>
      let step := Page.minifyEvents tools o { replies := [] } events
      match step.fault with
      | some fault => .error fault
      | none => .ok (Chunk.page step.emitted)

end PagePress

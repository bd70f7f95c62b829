import PagePress.Stylesheet.Spacing
import PagePress.Stylesheet.Values

/-!
# Compact stylesheets

`Stylesheet.compact` takes the comments and needless blanks out of a stylesheet and writes its
values in their shortest form, one pass after the other over the whole text.
-/

set_option autoImplicit false

namespace PagePress.Stylesheet

/-- The string in which one box model trick hides a brace. -/
def boxTrick : Text := "\"\\\"\x7d\\\"\""

/-- The mark for that string while braces are looked at. -/
def boxMark : Text := "___PSEUDOCLASSBMH___"

/-- Drops the semicolons before a closing brace. -/
def dropLastSemicolons : Text.Rule := fun t =>
  let n := (t.takeWhile (· == ';')).length
  if 0 < n && (t.drop n).head? == some '}' then some (['}'], n + 1) else none

/-- Writes several semicolons as one. -/
def joinSemicolons : Text.Rule := fun t =>
  let n := (t.takeWhile (· == ';')).length
  if 2 ≤ n then some ([';'], n) else none

/-- The compact form of a stylesheet. -/
def compact (t : Text) : Except Fault Text := do
  let t := Text.squeeze isBlank (dropComments t)
  let t := dropBlanks (Text.replace boxTrick boxMark t)
  let t := Text.substitute dropUnit (Text.substitute dropLastSemicolons t)
  let t := Text.substitute dropLeadingZeros (dropZeros t)
  let t ← toHex t
  let t := Text.replace boxMark boxTrick (shortenColours t)
  .ok (Text.strip (Text.substitute joinSemicolons t))

end PagePress.Stylesheet

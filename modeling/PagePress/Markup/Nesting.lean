import PagePress.Event

/-!
# How elements nest

A page need not say where every element starts and ends.  `Nesting` is the stack of the open
elements, with what is known of the page so far; its operations open and close elements, say which
others that opens or closes with them, and tell all of it as events.

* A start tag closes the open elements that cannot hold it (`Nesting.closeFor`), and opens those
  that it needs (`Nesting.openFor`).
* An end tag closes all that is open inside its element, unless a stronger element is among them.
* `html`, `head` and `body` come once; a tag that repeats one is passed over with its end tag.
-/

set_option autoImplicit false

namespace PagePress.Markup

/-! ## Tables -/

/-- Elements without content. -/
def voidTags : List Text := [
  "area", "base", "basefont", "br", "col", "frame", "hr", "img", "input", "isindex", "link", "meta",
  "param"]

/-- The open elements that start tags close, `head` apart: tags, and what they close. -/
def closings : List (List Text × List Text) := [
  (["a"], ["a"]),
  (["address", "menu", "pre"], ["p", "ul"]),
  (["blockquote", "caption", "dir", "div", "h1", "h2", "h3", "h4", "h5", "h6", "head", "hr",
      "listing", "ol", "title", "xmp"],
    ["p"]),
  (["body", "frameset"], ["p", "style", "title"]),
  (["center"], ["b", "font", "i", "p"]),
  (["col"], ["caption", "p"]),
  (["colgroup"], ["caption", "colgroup", "p"]),
  (["dd", "dl"], ["address", "dir", "dt", "listing", "menu", "p", "pre", "xmp"]),
  (["dt"], ["address", "dd", "dir", "listing", "menu", "p", "pre", "xmp"]),
  (["fieldset"],
    ["a", "h1", "h2", "h3", "h4", "h5", "h6", "legend", "listing", "p", "pre", "xmp"]),
  (["form"],
    ["address", "dir", "dl", "form", "h1", "h2", "h3", "h4", "h5", "h6", "listing", "menu", "ol",
      "p", "pre", "ul", "xmp"]),
  (["li"],
    ["address", "dl", "h1", "h2", "h3", "h4", "h5", "h6", "li", "listing", "p", "pre", "xmp"]),
  (["noscript"], ["script"]),
  (["option", "optgroup"], ["option"]),
  (["p"],
    ["b", "big", "h1", "h2", "h3", "h4", "h5", "h6", "i", "p", "s", "small", "strike", "tt", "u"]),
  (["table"], ["a", "h1", "h2", "h3", "h4", "h5", "h6", "listing", "p", "pre", "xmp"]),
  (["tbody"], ["caption", "colgroup", "p", "tbody", "td", "tfoot", "th", "thead", "tr"]),
  (["tfoot"], ["caption", "colgroup", "p", "tbody", "td", "th", "thead", "tr"]),
  (["thead"], ["caption", "colgroup"]),
  (["td", "th"], ["a", "b", "font", "i", "p", "span", "td", "th", "u"]),
  (["tr"], ["caption", "colgroup", "p", "td", "th", "tr"]),
  (["ul"], ["address", "dir", "listing", "menu", "p", "pre"])]

/-- The tags of pieces of text that close an open head. -/
def phraseTags : List Text := [
  "a", "abbr", "acronym", "b", "bdo", "big", "br", "cite", "code", "dfn", "em", "font", "i",
  "iframe", "img", "kbd", "map", "q", "s", "samp", "small", "span", "strike", "strong", "sub",
  "sup", "tt", "u", "var"]

/-- The tags of blocks that close an open head. -/
def blockTags : List Text := [
  "address", "blockquote", "body", "center", "dd", "dir", "div", "dl", "dt", "fieldset", "form",
  "frameset", "h1", "h2", "h3", "h4", "h5", "h6", "hr", "li", "listing", "menu", "ol", "p", "pre",
  "table", "ul", "xmp"]

/-- Elements that stand in the head of a page. -/
def headTags : List Text := ["script", "style", "meta", "link", "title", "base"]

/-- Elements that need no body around them. -/
def frameTags : List Text := ["html", "head", "body", "frameset", "frame", "noframes"]

/-- Whether a start tag closes an open element. -/
def closes (tag current : Text) : Bool :=
  closings.any (fun (tags, closed) => tags.contains tag && closed.contains current) ||
    (current == "head" && (phraseTags.contains tag || blockTags.contains tag))

/-- How strong an element is against end tags of weaker elements around it. -/
def strength (tag : Text) : Nat :=
  if tag == "div" then 150
  else if [("td" : Text), "th"].contains tag then 160
  else if tag == "tr" then 170
  else if [("thead" : Text), "tbody", "tfoot"].contains tag then 180
  else if tag == "table" then 190
  else if [("head" : Text), "body"].contains tag then 200
  else if tag == "html" then 220
  else 100

/-! ## The stack of open elements -/

/-- The open elements and what was seen of the page. -/
structure Nesting where
  /-- The open elements, innermost first. -/
  stack : List Text := []
  sawHead : Bool := false
  sawBody : Bool := false
  /-- The number of tags passed over whose end tags are still to come. -/
  passedOver : Nat := 0
  deriving DecidableEq, Repr

namespace Nesting

/-- A change of the nesting, told as events. -/
abbrev Move := Nesting → Nesting × List Event

/-- One change after the other. -/
def Move.andThen (f g : Move) : Move := fun n =>
  let (n, first) := f n
  let (n, second) := g n
  (n, first ++ second)

/-- Opens an element. -/
def push (tag : Text) (attrs : Attributes) : Move := fun n =>
  ({ n with
      stack := tag :: n.stack
      sawHead := n.sawHead || tag == "head"
      sawBody := n.sawBody || tag == "body" },
    [.start tag attrs])

/-- Closes the innermost element. -/
def pop : Move := fun n =>
  match n.stack with
  | [] => (n, [])
  | tag :: rest => ({ n with stack := rest }, [.finish tag])

/-- Closes open elements as long as `p` holds of the innermost. -/
def popWhile (p : Text → Bool) : Move := fun n =>
  ({ n with stack := n.stack.dropWhile p }, (n.stack.takeWhile p).map .finish)

/-- Closes the elements that cannot hold the element of a start tag. -/
def closeFor (tag : Text) : Move := popWhile (closes tag)

/-- Opens the elements that the element of a start tag needs around it. -/
def openFor (tag : Text) : Move := fun n =>
  if tag == "html" then (n, [])
  else
    let (n, outer) := if n.stack.isEmpty then push "html" [] n else (n, [])
    let (n, inner) : Nesting × List Event :=
      if tag == "body" || tag == "head" then (n, [])
      else if n.stack.length ≤ 1 && headTags.contains tag then
        if n.sawHead || n.sawBody then (n, []) else push "head" [] n
      else if frameTags.contains tag then (n, [])
      else if n.sawBody || n.stack.contains "body" || n.stack.contains "head" then (n, [])
      else push "body" [] n
    (n, outer ++ inner)

/-- Opens a paragraph for text that stands outside of the body. -/
def openParagraph : Move := fun n =>
  match n.stack with
  | [] => ((closeFor "p").andThen ((openFor "p").andThen (push "p" []))) n
  | tag :: _ =>
    if tag == "html" || tag == "head" then
      ((closeFor "p").andThen ((openFor "p").andThen (push "p" []))) n
    else (n, [])

/-- Whether a start tag is passed over because its element is there already. -/
def isRepeated (n : Nesting) (tag : Text) : Bool :=
  (tag == "html" && !n.stack.isEmpty) || (tag == "head" && n.stack.length != 1) ||
    (tag == "body" && n.stack.contains "body")

/-- Handles a start tag, and says whether it is passed over. -/
def startTag (n : Nesting) (tag : Text) (attrs : Attributes) : Nesting × List Event :=
  let (n, events) := (closeFor tag).andThen (openFor tag) n
  if n.isRepeated tag then ({ n with passedOver := n.passedOver + 1 }, events)
  else
    let (n, start) := push tag attrs n
    (n, events ++ start)

/-- Whether an end tag closes its element: it is open, and nothing stronger is open inside. -/
def canClose (tag : Text) : List Text → Bool
  | [] => false
  | inner :: rest => inner == tag || (strength inner ≤ strength tag && canClose tag rest)

/-- Handles an end tag. -/
def endTag (n : Nesting) (tag : Text) : Nesting × List Event :=
  if 0 < n.passedOver && [("html" : Text), "body", "head"].contains tag then
    ({ n with passedOver := n.passedOver - 1 }, [])
  else if canClose tag n.stack then (popWhile (· != tag)).andThen pop n
  else (n, [])

/-- Closes all elements. -/
def closeAll : Move := popWhile fun _ => true

end Nesting

end PagePress.Markup

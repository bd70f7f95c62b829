import PagePress.Attribute.Basic

/-!
# Elements

A page as a tree: a `Node` is a text, or an element with its attributes and content.  `Node.select`
finds elements, and `Node.inlineText` is the text of an element as a reader sees it: blanks
squeezed, blocks on lines of their own.
-/

set_option autoImplicit false

namespace PagePress

/-- A text or an element. -/
inductive Node where
  | text (t : Text)
  | element (tag : Text) (attrs : Attributes) (content : List Node)
  deriving Repr, Inhabited

namespace Node

/-- The number of open elements in which one more may be opened. -/
def maxDepth : Nat := 256

/-- The value of the attribute of that very name. -/
def attribute? : Node → Text → Option Text
  | .text _, _ => none
  | .element _ attrs _, name => (attrs.get? name).bind (·.value)

/-! ## Selection -/

mutual

/-- The elements of a tree, the root first and each before its content, of which `p` holds. -/
def select (p : Text → Attributes → Bool) : Node → List Node
  | .text _ => []
  | .element tag attrs content =>
    (if p tag attrs then [.element tag attrs content] else []) ++ selectAll p content

/-- The elements of trees, in order, of which `p` holds. -/
def selectAll (p : Text → Attributes → Bool) : List Node → List Node
  | [] => []
  | node :: nodes => select p node ++ selectAll p nodes

end

/-! ## Text -/

/-- The elements whose text goes on the line they stand in. -/
def inlineTags : List Text := [
  "a", "abbr", "acronym", "b", "bdo", "big", "br", "button", "cite", "code", "dfn", "em", "i",
  "img", "input", "kbd", "label", "map", "object", "q", "samp", "script", "select", "small", "span",
  "strong", "sub", "sup", "textarea", "time", "tt", "var"]

/-- A part of the text of a tree. -/
inductive Part where
  /-- Text. -/
  | text (t : Text)
  /-- The edge of a block. -/
  | edge
  /-- A line break. -/
  | lineBreak
  deriving DecidableEq, Repr

/-- What an element puts before its content. -/
def opening (tag : Text) : List Part :=
  if tag == "br" then [.lineBreak] else if inlineTags.contains tag then [] else [.edge]

/-- What an element puts after its content. -/
def closing (tag : Text) : List Part := if inlineTags.contains tag then [] else [.edge]

mutual

/-- The parts of the text of a tree. -/
def parts : Node → List Part
  | .text t => [.text t]
  | .element tag _ content => opening tag ++ partsAll content ++ closing tag

/-- The parts of the text of trees. -/
def partsAll : List Node → List Part
  | [] => []
  | node :: nodes => parts node ++ partsAll nodes

end

/-- The blanks that are squeezed in the text of a tree. -/
def isSoftBlank (c : Char) : Bool :=
  c == ' ' || c == '\t' || c == '\n' || c == '\r' || c.toNat == 0x0C || c.toNat == 0x200B

/-- A text as one part, squeezed and stripped; none if nothing is left. -/
def settleText (t : Text) : List Part :=
  let t := Text.strip (Text.squeeze isSoftBlank t)
  if t.isEmpty then [] else [.text t]

/-- Joins texts that follow on each other, after the text that is held. -/
def joinTexts : Text → List Part → List Part
  | held, [] => settleText held
  | held, .text t :: rest => joinTexts (held ++ t) rest
  | held, part :: rest => settleText held ++ part :: joinTexts [] rest

/-- Leaves of edges that follow on each other only the first; `afterEdge` says whether the part
before is an edge. -/
def joinEdges : Bool → List Part → List Part
  | _, [] => []
  | true, .edge :: rest => joinEdges true rest
  | false, .edge :: rest => .edge :: joinEdges true rest
  | _, part :: rest => part :: joinEdges false rest

/-- Whether a part is text. -/
def Part.isText : Part → Bool
  | .text _ => true
  | _ => false

/-- The parts from the first text to the last. -/
def trimParts (parts : List Part) : List Part :=
  ((parts.dropWhile (!·.isText)).reverse.dropWhile (!·.isText)).reverse

/-- A part as it is written. -/
def Part.written : Part → Text
  | .text t => t
  | .edge | .lineBreak => ['\n']

/-- The text of a tree as a reader sees it. -/
def inlineText (node : Node) : Text :=
  (trimParts (joinEdges false (joinTexts [] node.parts))).flatMap Part.written

end Node

end PagePress

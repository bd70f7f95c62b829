import PagePress.Text.Case
import PagePress.Xml.Document

/-!
# Pages as trees

`Markup.document` is the part of a page in which resources are looked for.  A page that keeps all
rules of markup is taken by them, letter case included; any other is read leniently, and its tree is
that of what is read.

A page has one root.  An element after the root goes into it, unless something else stands before
the root, and then it is no part of the tree.  Elements deeper than `Node.maxDepth` end the reading.
-/

set_option autoImplicit false

namespace PagePress.Markup

/-- An element whose content is being read. -/
structure Frame where
  tag : Text
  attrs : Attributes
  /-- The content so far, the last first. -/
  content : List Node := []

/-- The element of a frame. -/
def Frame.node (f : Frame) : Node := .element f.tag f.attrs f.content.reverse

/-- A page that is being read. -/
structure Builder where
  /-- The elements outside of all others, the last first. -/
  done : List Node := []
  /-- The open elements, innermost first. -/
  frames : List Frame := []
  /-- Whether something else than an element stands first. -/
  isLed : Bool := false
  /-- Whether the page is read no further. -/
  isHalted : Bool := false

namespace Builder

/-- Adds a node where the page is at. -/
def add (b : Builder) (node : Node) : Builder :=
  match b.frames with
  | [] => { b with done := node :: b.done }
  | f :: fs => { b with frames := { f with content := node :: f.content } :: fs }

/-- Closes the innermost element. -/
def close (b : Builder) : Builder :=
  match b.frames with
  | [] => b
  | f :: fs => { b with frames := fs }.add f.node

/-- Closes the innermost element of a tag and all inside it, in at most the given number of
rounds. -/
def closeUpTo (tag : Text) : Nat → Builder → Builder
  | 0, b => b
  | rounds + 1, b =>
    if b.frames.head?.any (·.tag == tag) then b.close else closeUpTo tag rounds b.close

/-- Whether nothing is read so far. -/
def isEmpty (b : Builder) : Bool := b.done.isEmpty && b.frames.isEmpty

/-- Handles an event. -/
def handle (b : Builder) : Event → Builder
  | .start tag attrs =>
    if Node.maxDepth < b.frames.length then { b with isHalted := true }
    else { b with frames := ⟨tag, attrs, []⟩ :: b.frames }
  | .finish tag => closeUpTo tag b.frames.length b
  | .data (some t) => if b.frames.isEmpty then b else b.add (.text t)
  | .data none => b
  | .comment _ => { b with isLed := b.isLed || b.isEmpty }

/-- Handles what is read next.  A document type stands first wherever it is written. -/
def take (b : Builder) (item : Item) : Builder :=
  if b.isHalted then b
  else
    match item with
    | .event e => b.handle e
    | .instruction => { b with isLed := b.isLed || b.isEmpty }
    | .doctype => { b with isLed := true }

/-- Puts further elements into the root. -/
def gather : List Node → Option Node
  | [] => none
  | .text t :: _ => some (.text t)
  | .element tag attrs content :: rest => some (.element tag attrs (content ++ rest))

/-- The root of a page at its end. -/
def finish (b : Builder) : Option Node :=
  let roots := (b.frames.foldl (fun b _ => b.close) b).done.reverse
  if b.isLed then roots.head? else gather roots

end Builder

/-- The tree of what is read of a page, if there is an element in it. -/
def tree? (items : List Item) : Option Node := (items.foldl Builder.take {}).finish

/-- Whether a text starts as a whole page. -/
def startsPage (t : Text) : Bool :=
  match Text.stripStart t with
  | '<' :: t => (Text.dropCaseless? "html" t).isSome || (Text.dropCaseless? "!doctype" t).isSome
  | _ => false

/-- Whether a node is an element of a tag. -/
def isElement (tag : Text) : Node → Bool
  | .text _ => false
  | .element t _ _ => t == tag

/-- The content of an element. -/
def contentOf : Node → List Node
  | .text _ => []
  | .element _ _ content => content

/-- The part of a page, read leniently, in which resources are looked for: all of it, but of a
fragment without a head only what its bodies hold. -/
def lenientDocument (t : Text) : Except Fault (List Node) :=
  match tree? (items t) with
  | none => .error .documentEmpty
  | some root =>
    let bodies := (contentOf root).filter (isElement "body")
    if startsPage t || (contentOf root).any (isElement "head") || bodies.isEmpty then .ok [root]
    else .ok (bodies.flatMap contentOf)

/-- The part of a page in which resources are looked for. -/
def document (t : Text) : Except Fault (List Node) :=
  if declaresEncoding t then .error .encodingDeclared
  else
    match Xml.document? t with
    | some root => .ok [root]
    | none => lenientDocument t

end PagePress.Markup

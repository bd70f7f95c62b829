import PagePress.Attribute.Fragment
import PagePress.Comment
import PagePress.Event
import PagePress.Service
import PagePress.Wrapper

/-!
# Runs

A `Run` turns events into chunks of output.  It keeps the chunks that are not sent on yet, the text
of the element at hand, and the open elements whose blanks mean something.  Text is parked until an
end tag comes; a start tag forgets it.

* `Run.start`, `Run.finish`, `Run.data` and `Run.comment` handle one event each.
* `Run.finish` first settles the text of the element that ends, then decides how the element is
  closed (`Closing`): its end tag is written and all chunks are sent on, or it is not written
  because it is implied, or because the element is empty and to be removed.
* `Run.feed` handles events in order, up to the first fault.

The chunks sent on are no part of the state: a `Step` gives them as its result, so that nothing a
run does can depend on them.
-/

set_option autoImplicit false

namespace PagePress

/-! ## Tags -/

/-- Elements whose text keeps the blanks at its ends. -/
def keepsEnds (tag : Text) : Bool := [("pre" : Text), "textarea"].contains tag

/-- Elements whose text keeps its runs of blanks. -/
def keepsRuns (tag : Text) : Bool := [("script" : Text), "style", "pre", "textarea"].contains tag

/-- Elements whose end tag is implied. -/
def hasOptionalEnd (tag : Text) : Bool :=
  [("tbody" : Text), "thead", "tfoot", "tr", "option"].contains tag

/-- Elements that can be removed when they are empty. -/
def isRemovable (tag : Text) : Bool := tag != "textarea"

/-! ## State -/

/-- The state of a run. -/
structure Run where
  /-- The chunks that are not sent on yet. -/
  chunks : List Text := []
  /-- The open elements whose text keeps the blanks at its ends, outermost first. -/
  keepEnds : List Text := []
  /-- The open elements whose text keeps its runs of blanks, outermost first. -/
  keepRuns : List Text := []
  /-- The text since the last tag. -/
  pending : Text := []
  /-- The tag started last. -/
  tag : Text := []
  /-- The attributes of the tag started last. -/
  attrs : Option Attributes := none
  deriving DecidableEq, Repr

/-- What the handling of events gives. -/
structure Step where
  /-- The run afterwards. -/
  run : Run
  /-- The compile service afterwards. -/
  service : Service
  /-- The chunks sent on. -/
  emitted : List Text := []
  /-- The chunks at which the run stopped to collect, if it goes on with a list of its own. -/
  shelved : Option (List Text) := none
  /-- The fault that cut the handling short. -/
  fault : Option Fault := none
  deriving DecidableEq, Repr

namespace Run

/-- The run with more chunks. -/
def write (r : Run) (chunks : List Text) : Run := { r with chunks := r.chunks ++ chunks }

/-! ## Start tags -/

/-- The texts of attributes, up to the first that has none. -/
def fragments (o : Options) (tag : Text) : Attributes → List Text × Option Fault
  | [] => ([], none)
  | a :: rest =>
    match a.fragment o tag with
    | .error fault => ([], some fault)
    | .ok text =>
      let (texts, fault) := fragments o tag rest
      (text :: texts, fault)

/-- The run inside an element that starts. -/
def enter (o : Options) (r : Run) (tag : Text) (attrs : Attributes) : Run :=
  { r with
    tag := tag
    attrs := some attrs
    pending := []
    keepEnds := if o.collapseWhitespace && keepsEnds tag then r.keepEnds ++ [tag] else r.keepEnds
    keepRuns := if o.collapseWhitespace && keepsRuns tag then r.keepRuns ++ [tag] else r.keepRuns }

/-- Handles a start tag.  What is written of it before a fault stays. -/
def start (o : Options) (r : Run) (tag : Text) (attrs : Attributes) : Run × Option Fault :=
  let tag := tag.lower
  let r := r.enter o tag attrs
  match fragments o tag attrs with
  | (texts, some fault) => (r.write (['<'] :: tag :: texts), some fault)
  | (texts, none) => (r.write (['<'] :: tag :: texts ++ [['>']]), none)

/-! ## Text and comments -/

/-- A text as it is added to the pending text. -/
def normalize (o : Options) (r : Run) (t : Text) : Text :=
  if o.collapseWhitespace then
    let t := if r.keepEnds.isEmpty && !keepsEnds r.tag then Text.strip t else t
    if r.keepRuns.isEmpty && !keepsRuns r.tag then Text.collapse t else t
  else t

/-- Handles a text. -/
def data (o : Options) (r : Run) : Option Text → Run
  | none => r
  | some t => { r with pending := r.pending ++ r.normalize o t }

/-- Handles a comment. -/
def comment (o : Options) (r : Run) (t : Text) : Run := r.write [Comment.chunk o t]

/-! ## End tags -/

/-- Whether the attributes of the tag started last say where its script is. -/
def hasSource (r : Run) : Bool := r.attrs.any (·.has "src")

/-- The text of the element that ends: the pending text, in a script or style without its wrappers
and compacted. -/
def closingText (tools : Tools) (o : Options) (r : Run) (s : Service) :
    Except Fault Text × Service :=
  match RawKind.ofTag? r.tag with
  | none => (.ok r.pending, s)
  | some .script =>
    let text := Wrapper.unwrap o .script r.pending
    if o.minifyJS && !Text.allBlank text && !r.hasSource then
      tools.compactScript s (some text) none
    else (.ok text, s)
  | some .style =>
    let text := Wrapper.unwrap o .style r.pending
    if o.minifyCSS && !Text.allBlank text then (tools.compactStyle (some text) none, s)
    else (.ok text, s)

/-- The open elements after the end tag of `tag`. -/
def leave (tag : Text) (kept : List Text) : List Text :=
  if kept.getLast? == some tag then kept.dropLast else kept

/-- The run after the text of the element that ends. -/
def settle (o : Options) (r : Run) (tag text : Text) : Run :=
  { r with
    pending := text
    chunks := r.chunks ++ [text]
    keepEnds := if o.collapseWhitespace then leave tag r.keepEnds else r.keepEnds
    keepRuns := if o.collapseWhitespace then leave tag r.keepRuns else r.keepRuns }

/-- The chunks from the last one on that opens a tag. -/
def fromLastOpening? : List Text → Option (List Text)
  | [] => none
  | c :: cs =>
    match fromLastOpening? cs with
    | some tail => some tail
    | none => if c == ['<'] then some (c :: cs) else none

/-- How an element is closed. -/
inductive Closing where
  /-- The element is empty and removed; the run goes on with the given chunks. -/
  | removed (chunks : List Text)
  /-- The element is empty, and no chunk opens its tag. -/
  | unopened
  /-- The end tag is implied. -/
  | implied
  /-- The end tag is written. -/
  | written
  deriving DecidableEq, Repr

/-- How the element is closed whose text is settled. -/
def closing (o : Options) (r : Run) (tag : Text) : Closing :=
  if o.removeEmptyElements && r.pending.isEmpty && tag == r.tag && isRemovable tag then
    match fromLastOpening? r.chunks with
    | some tail => .removed tail
    | none => .unopened
  else if o.removeOptionalTags && hasOptionalEnd tag then .implied
  else .written

/-- The chunks of an end tag. -/
def endTag (tag : Text) : List Text := [['<', '/'], tag.lower, ['>']]

/-- Closes the element whose text is settled.  If no chunk opens its tag, the chunks are left in the
reverse order. -/
def close (o : Options) (r : Run) (s : Service) (tag : Text) : Step :=
  match r.closing o tag with
  | .removed tail =>
    { run := { r with chunks := tail }, service := s, shelved := some r.chunks }
  | .unopened =>
    { run := { r with chunks := r.chunks.reverse }, service := s, fault := some .noOpening }
  | .implied => { run := r, service := s }
  | .written =>
    let chunks := r.chunks ++ endTag tag
    { run := { r with chunks := [], pending := [] }
      service := s
      emitted := chunks
      shelved := some chunks }

/-- Handles an end tag. -/
def finish (tools : Tools) (o : Options) (r : Run) (s : Service) (tag : Text) : Step :=
  match r.closingText tools o s with
  | (.error fault, s) => { run := r, service := s, fault := some fault }
  | (.ok text, s) => (r.settle o tag text).close o s tag

/-! ## Events -/

/-- Handles an event. -/
def step (tools : Tools) (o : Options) (r : Run) (s : Service) : Event → Step
  | .start tag attrs =>
    let (r, fault) := r.start o tag attrs
    { run := r, service := s, fault := fault }
  | .finish tag => r.finish tools o s tag
  | .data text => { run := r.data o text, service := s }
  | .comment text => { run := r.comment o text, service := s }

/-- Handles events in order, up to the first fault. -/
def feed (tools : Tools) (o : Options) : Run → Service → List Event → Step
  | r, s, [] => { run := r, service := s }
  | r, s, e :: es =>
    let first := r.step tools o s e
    match first.fault with
    | some _ => { first with shelved := none }
    | none =>
      let rest := feed tools o first.run first.service es
      { rest with emitted := first.emitted ++ rest.emitted }

end Run

end PagePress

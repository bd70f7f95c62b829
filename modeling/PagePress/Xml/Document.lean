import PagePress.Markup.Reader
import PagePress.Xml.Subset
import PagePress.Xml.Tag

/-!
# Well-formed documents

`Xml.document?` reads a page that keeps all rules of well-formed markup: one root element, tags that
match letter for letter, attributes in quotes and each once, and references only to what is
declared.  A page that breaks a rule is no result, and neither is one on which the last remark is a
fault.

An entity is read once, where it is first referred to, and stands for the same content from then on.
-/

set_option autoImplicit false

namespace PagePress.Xml

namespace Reading

/-! ## Content -/

/-- Reads a run of text without markup. -/
def text : Reading Node := do
  let isPlain (c : Char) : Bool := c != '<' && c != '&'
  let t ← rest
  let run := t.takeWhile isPlain
  guard (isClean run && !Text.occursIn "]]>" run)
  goTo (t.dropWhile isPlain)
  return .text run

/-- The content of an entity.  `expand` reads its text. -/
def entity (expand : Text → Reading (List Node)) (name : Text) : Reading (List Node) := do
  match ← entityText? name with
  | none => return []
  | some t =>
    match (← get).known.lookup name with
    | some (nodes, cost) =>
      charge cost
      return nodes
    | none =>
      let before := (← get).expanded
      charge (cost t)
      let nodes ← apart (expand t)
      modify fun s => { s with known := (name, nodes, s.expanded - before) :: s.known }
      return nodes

/-- Reads what is referred to after an ampersand. -/
def referred (expand : Text → Reading (List Node)) : Reading (List Node) := do
  let ref ← part (Text.cut? ";")
  match Reference.ofText? ref with
  | none => failure
  | some (.char c) => return [.text [c]]
  | some (.entity name) => entity expand name

mutual

/-- Reads an element after its opening mark, with so many elements open around it and in at most so
many rounds. -/
def element (levels : Nat) (expand : Scope → Text → Reading (List Node)) :
    Nat → Nat → Scope → Reading Node
  | 0, _, _ => failure
  | rounds + 1, depth, scope => do
    guard (depth ≤ Node.maxDepth)
    let tag ← startTag levels scope
    if ← tryPast "/>" then return .element tag.tag tag.attrs []
    past ">"
    let nodes ← content levels expand rounds (depth + 1) tag.scope []
    past ("</" ++ tag.written)
    spaces
    past ">"
    return .element tag.tag tag.attrs nodes

/-- Reads content up to an end tag or the end of the text, after the nodes that are read already,
the last first. -/
def content (levels : Nat) (expand : Scope → Text → Reading (List Node)) :
    Nat → Nat → Scope → List Node → Reading (List Node)
  | 0, _, _, _ => failure
  | rounds + 1, depth, scope, nodes => do
    if (← rest).isEmpty || (← sees "</") then return nodes.reverse
    else if ← tryPast "<?" then
      instruction
      content levels expand rounds depth scope nodes
    else if ← tryPast "<!--" then
      comment
      content levels expand rounds depth scope nodes
    else if ← tryPast "<![CDATA[" then
      let t ← upTo "]]>"
      content levels expand rounds depth scope (.text t :: nodes)
    else if ← tryPast "<" then
      let node ← element levels expand rounds depth scope
      content levels expand rounds depth scope (node :: nodes)
    else if ← tryPast "&" then
      let more ← referred (expand scope)
      content levels expand rounds depth scope (more.reverse ++ nodes)
    else
      let node ← text
      content levels expand rounds depth scope (node :: nodes)

end

/-- Reads the text of an entity as content, at most so many levels deep.  The entity counts as an
open element. -/
def entityContent : Nat → Scope → Text → Reading (List Node)
  | 0, _, _ => failure
  | levels + 1, scope, t =>
    inText t (content levels (entityContent levels) (2 * t.length + 2) 1 scope [])

/-! ## Documents -/

/-- Reads an equals sign with blanks around it, and a text in quotes. -/
def equals : Reading Text := do
  spaces
  past "="
  spaces
  quoted

/-- Reads the version of the markup.  A version other than the first is remarked on, as long as its
main number is one. -/
def version : Reading Unit := do
  past "version"
  let version ← equals
  guard ((Text.after? "1." version).any (·.all Char.isDigit))
  remarkIf (version != "1.0") .warning

/-- Whether a text is the name of an encoding. -/
def isEncodingName (t : Text) : Bool :=
  t.head?.any Char.isAlpha &&
    t.all fun c => c.isAlphanum || c == '.' || c == '_' || c == '-'

/-- Reads whether the page says that nothing is declared elsewhere, and the end of the declaration
of the markup. -/
def standalone : Reading Unit := do
  if ← tryPast "standalone" then
    let t ← equals
    guard (t == "yes" || t == "no")
    declare fun d => { d with isStandalone := t == "yes" }
    spaces
  past "?>"

/-- Reads the declaration of the markup, if there is one. -/
def markupDeclaration : Reading Unit := do
  let isThere := ((Text.after? "<?xml" (← rest)).bind List.head?).any Markup.isSpace
  if isThere then
    past "<?xml"
    spaces
    version
    unless ← tryPast "?>" do
      needSpaces
      if ← tryPast "encoding" then
        guard (isEncodingName (← equals))
        unless ← tryPast "?>" do
          needSpaces
          standalone
      else standalone

/-- Passes over blanks, comments and instructions. -/
def misc : Nat → Reading Unit
  | 0 => return
  | rounds + 1 => do
    spaces
    if ← tryPast "<?" then
      instruction
      misc rounds
    else if ← tryPast "<!--" then
      comment
      misc rounds

/-- Reads a document, and gives its root. -/
def document : Reading Node := do
  markupDeclaration
  misc ((← rest).length + 1)
  doctype
  misc ((← rest).length + 1)
  past "<"
  let rounds := 2 * (← rest).length + 2
  let root ← element maxLevels (entityContent maxLevels) rounds 0 []
  misc ((← rest).length + 1)
  guard (Markup.isOver (← rest))
  return root

end Reading

/-- The root of a well-formed page. -/
def document? (t : Text) : Option Node := do
  let t := Markup.dropByteOrderMark t
  let (root, s) ← Reading.document.run { rest := t, size := byteSize t }
  if s.remark == some .fault then none else some root

end PagePress.Xml

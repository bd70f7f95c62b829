import PagePress.Fault
import PagePress.Markup.Declaration

/-!
# Reading a page

`Markup.read` turns the text of a page into events.  It takes every text for a page: what is no tag
is text, and what is missing of the structure is made up by the rules of nesting.

* Each reference in a text is an event of its own, and so is a `<` that begins no tag.
* A text is cut into pieces of a thousand bytes.
* The content of scripts and styles is raw text up to the end tag.
* Document types, instructions and other declarations are passed over.
* The null character ends the page where a mark could stand, and is a blank inside a text.

Each round of `readContent` gets at least one character ahead, so the length of the text bounds the
number of rounds.
-/

set_option autoImplicit false

namespace PagePress.Markup

/-! ## Text -/

/-- The number of bytes at which a text is cut. -/
def pieceSize : Nat := 1000

/-- A piece of text, and what follows it. -/
structure Piece where
  text : Text
  rest : Text

/-- The piece that is held, the last character first, if there is any. -/
def heldPiece (held rest : Text) : List Piece :=
  if held.isEmpty then [] else [⟨held.reverse, rest⟩]

/-- Cuts the text up to where `stop` holds into pieces.  Of the next piece some characters are held,
the last first, with their number of bytes. -/
def takePieces (stop : Text → Bool) : Text → Nat → Text → List Piece × Text
  | held, _, [] => (heldPiece held [], [])
  | held, size, c :: t =>
    if stop (c :: t) then (heldPiece held (c :: t), c :: t)
    else
      match readable? c with
      | none => takePieces stop held size t
      | some c =>
        if pieceSize ≤ size + c.utf8Size then
          let (pieces, rest) := takePieces stop [] 0 t
          (heldPiece (c :: held) t ++ pieces, rest)
        else takePieces stop (c :: held) (size + c.utf8Size) t

/-- Reads raw text, in an element of the given tag. -/
def readRaw (tag t : Text) : List Event × Text :=
  let isEnd (t : Text) : Bool := ((Text.after? "</" t).bind (dropWord? tag)).isSome
  let (pieces, t) := takePieces isEnd [] 0 t
  (pieces.map fun piece => .data (some piece.text), t)

/-- Whether a piece of text needs no place in the structure of a page: it is blank, and a tag or the
end follows. -/
def Piece.isLoose (piece : Piece) : Bool :=
  piece.text.all isSpace && (isOver piece.rest || piece.rest.head? == some '<')

/-- Tells pieces of text, each in a paragraph where it needs one. -/
def tellPieces (n : Nesting) : List Piece → Nesting × List Event
  | [] => (n, [])
  | piece :: pieces =>
    let (n, opening) := if piece.isLoose then (n, []) else Nesting.openParagraph n
    let (n, events) := tellPieces n pieces
    (n, opening ++ .data (some piece.text) :: events)

/-- Reads text up to a tag or a reference. -/
def readText (n : Nesting) (t : Text) : (Nesting × List Event) × Text :=
  let (pieces, rest) := takePieces (·.head?.any fun c => c == '<' || c == '&') [] 0 t
  (tellPieces n pieces, rest)

/-- Reads what follows an ampersand in a text. -/
def readReference (n : Nesting) (t : Text) : (Nesting × List Event) × Text :=
  let (ref, t) := reference t
  let events : List Event :=
    match ref with
    | .noChar => []
    | .word name => [.data (some ['&']), .data (some name)]
    | ref => [.data (some ref.text)]
  match events with
  | [] => ((n, []), t)
  | events =>
    let (n, opening) := Nesting.openParagraph n
    ((n, opening ++ events), t)

/-! ## Pages -/

/-- The tag of the innermost element if its content is raw text. -/
def rawTag? (n : Nesting) : Option Text :=
  n.stack.head?.filter fun tag => tag == "script" || tag == "style"

/-- Reads a start tag after its opening mark.  It closes the elements before it also where they hold
raw text; if an element with raw text stays open, the tag is a part of that. -/
def readElement (n : Nesting) (t : Text) : (Nesting × List Event) × Text :=
  let (n, closing) := Nesting.closeFor (closingName t) n
  match rawTag? n, tagName? t with
  | some tag, _ =>
    let (events, t) := readRaw tag ('<' :: t)
    ((n, closing ++ events), t)
  | none, some (name, t) =>
    let ((n, events), t) := readStartTag n name t
    ((n, closing ++ events), t)
  | none, none => ((n, closing), t)

/-- Reads the next part of a page. -/
def readNext (n : Nesting) (t : Text) : (Nesting × List Item) × Text :=
  let told : (Nesting × List Event) × Text → (Nesting × List Item) × Text :=
    fun ((n, events), t) => ((n, events.map .event), t)
  let startsTag : Bool := ((Text.after? "<" t).bind List.head?).any Char.isAlpha
  match t, rawTag? n with
  | '<' :: '/' :: t, _ => told (readEndTag n t)
  | t, raw =>
    if startsTag then told (readElement n (t.drop 1))
    else
      match t, raw with
      | t, some tag =>
        let (events, t) := readRaw tag t
        told ((n, events), t)
      | '<' :: '!' :: t, none =>
        let (items, t) := readDeclaration t
        ((n, items), t)
      | '<' :: '?' :: t, none =>
        let (items, t) := readInstruction t
        ((n, items), t)
      | '<' :: t, none => told ((n, [.data (some ['<'])]), t)
      | '&' :: t, none => told (readReference n t)
      | t, none => told (readText n t)

/-- Reads the content of a page in as many rounds as it may take. -/
def readContent : Nat → Nesting → Text → List Item
  | 0, n, _ => (Nesting.closeAll n).2.map .event
  | rounds + 1, n, t =>
    if isOver t then (Nesting.closeAll n).2.map .event
    else
      let ((n, items), t) := readNext n t
      items ++ readContent rounds n t

/-- Reads the comments and instructions at the start of a text. -/
def readMisc : Nat → Text → List Item × Text
  | 0, t => ([], t)
  | rounds + 1, t =>
    let andThen : List Item × Text → List Item × Text := fun (first, t) =>
      let (rest, t) := readMisc rounds t
      (first ++ rest, t)
    match skipSpaces t with
    | '<' :: '!' :: '-' :: '-' :: t => andThen (readComment t)
    | '<' :: '?' :: t => andThen (readInstruction t)
    | t => ([], t)

/-- Reads the document type at the start of a text, if there is one. -/
def readLeadingDoctype (t : Text) : List Item × Text :=
  match dropWord? "<!doctype" t with
  | some t => ([.doctype], skipDoctype t)
  | none => ([], t)

/-- The text without the mark of its byte order, which is one only if something follows. -/
def dropByteOrderMark : Text → Text
  | c :: d :: t => if c.toNat == 0xFEFF then d :: t else c :: d :: t
  | t => t

/-- What is read of a page.  Blanks before the first tag are nothing, also around comments and the
document type. -/
def items (t : Text) : List Item :=
  let t := dropByteOrderMark t
  let (before, t) := readMisc t.length t
  let (doctype, t) := readLeadingDoctype t
  let (after, t) := readMisc t.length t
  before ++ doctype ++ after ++ readContent (t.length + 1) {} t

/-- The events of a page. -/
def events (t : Text) : List Event := (items t).filterMap Item.event?

/-! ## Encodings -/

/-- Whether an encoding is declared at this place, after blanks. -/
def isEncodingAt (t : Text) : Bool :=
  let isQuote (c : Char) : Bool := c == '"' || c == '\''
  let declared : Option Unit := do
    let t ← Text.after? "encoding" (Text.stripStart t)
    let t ← Text.after? "=" (Text.stripStart t)
    match Text.stripStart t with
    | q :: t => if isQuote q && t.any isQuote then some () else none
    | [] => none
  t.head?.any isBlank && declared.isSome

/-- Whether an encoding is declared in the rest of an instruction, after at least one character. -/
def hasEncoding : Text → Bool
  | [] => false
  | c :: t => c != '>' && (isEncodingAt t || hasEncoding t)

/-- Whether a text declares its encoding. -/
def declaresEncoding (t : Text) : Bool := (Text.after? "<?xml" t).any hasEncoding

/-- Reads a page, which must not declare an encoding, since it is text already. -/
def read (t : Text) : Except Fault (List Event) :=
  if declaresEncoding t then .error .encodingDeclared else .ok (events t)

end PagePress.Markup

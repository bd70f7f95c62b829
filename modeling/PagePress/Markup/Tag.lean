import PagePress.Markup.Nesting
import PagePress.Markup.Reference

/-!
# Tags

A tag has a name and attributes.  Names are of ASCII characters, and a name ends after a hundred of
them: what follows belongs to the next name.  The value of an attribute stands in quotes or bare;
its references are read, and it ends at the first number that is that of no character.

* `readStartTag` reads a start tag and opens its element.
* `readEndTag` reads an end tag and closes its element.
-/

set_option autoImplicit false

namespace PagePress.Markup

/-! ## Scanning -/

/-- The blanks of markup. -/
def isSpace (c : Char) : Bool := c == ' ' || c == '\t' || c == '\n' || c == '\r'

/-- The text without the blanks of markup at its start. -/
def skipSpaces (t : Text) : Text := t.dropWhile isSpace

/-- Whether a text is over, where it is looked at as marks. -/
def isOver (t : Text) : Bool := t.isEmpty || t.head? == some nullChar

/-- The text after the next `>`. -/
def skipPast (t : Text) : Text :=
  let rest := t.dropWhile fun c => c != '>' && c != nullChar
  if rest.head? == some '>' then rest.drop 1 else rest

/-- The rest of a text that starts with the small letters `p` in ASCII letters of any case. -/
def dropWord? (p t : Text) : Option Text := do
  let _ ← Text.after? p ((t.take p.length).map Char.toLower)
  some (t.drop p.length)

/-! ## Names and attributes -/

/-- The most characters of the name of a tag or attribute. -/
def tagNameSize : Nat := 100

/-- The characters that start the name of a tag or attribute. -/
def startsTagName (c : Char) : Bool := c.isAlpha || c == '_' || c == ':' || c == '.'

/-- The characters of the name of a tag or attribute. -/
def isTagNameChar (c : Char) : Bool := startsTagName c || c.isDigit || c == '-'

/-- The name of a tag or attribute at the start of a text, in small letters, and the text after
it. -/
def tagName? (t : Text) : Option (Text × Text) :=
  if t.head?.any startsTagName then
    let name := (t.take tagNameSize).takeWhile isTagNameChar
    some (name.map Char.toLower, t.drop name.length)
  else none

/-- The characters beyond ASCII that a name is taken to go on with: all but those of one block. -/
def isFarChar (c : Char) : Bool :=
  0x80 ≤ c.toNat && !(0x5C0 ≤ c.toNat && c.toNat ≤ 0x5FF)

/-- The name by which a start tag closes the elements before it: it ends at a point, and goes on
with characters beyond ASCII. -/
def closingName (t : Text) : Text :=
  let goesOn (c : Char) : Bool := (isTagNameChar c && c != '.') || isFarChar c
  ((t.take tagNameSize).takeWhile goesOn).map Char.toLower

/-- The value of an attribute up to a character of the class `stop`, with its references read, and
the text from there on. -/
def valueUntil (stop : Char → Bool) : Nat → Text → Text × Text
  | 0, t => ([], t)
  | _, [] => ([], [])
  | rounds + 1, c :: t =>
    if stop c || c == nullChar then ([], c :: t)
    else if c == '&' then
      let (ref, t) := reference t
      let (value, t) := valueUntil stop rounds t
      (ref.text ++ value, t)
    else
      let (value, t) := valueUntil stop rounds t
      (c :: value, t)

/-- The value of an attribute in quotes, after the first of them, and the text after it. -/
def quotedValue (quote : Char) (t : Text) : Text × Text :=
  let (value, t) := valueUntil (· == quote) t.length t
  (value, if t.head? == some quote then t.drop 1 else t)

/-- The value of an attribute, in quotes or bare, and the text after it. -/
def attributeValue (t : Text) : Text × Text :=
  let (value, t) :=
    match t with
    | '"' :: t => quotedValue '"' t
    | '\'' :: t => quotedValue '\'' t
    | t => valueUntil (fun c => c == '>' || isSpace c) t.length t
  (value.takeWhile (· != nullChar), t)

/-- The value after an equals sign, if there is one, and the text after it. -/
def optionalValue (t : Text) : Text × Text :=
  match skipSpaces t with
  | '=' :: t => attributeValue (skipSpaces t)
  | t => ([], t)

/-- Whether a start tag ends here. -/
def tagEnds (t : Text) : Bool :=
  isOver t || (Text.after? ">" t).isSome || (Text.after? "/>" t).isSome

/-- Passes over characters that make no attribute. -/
def skipJunk : Text → Text
  | [] => []
  | c :: t => if isSpace c || tagEnds (c :: t) then c :: t else skipJunk t

/-- The attributes of a start tag, after those already read, and the text after them.  Of a name
that comes again the first value stays. -/
def readAttributes : Nat → Attributes → Text → Attributes × Text
  | 0, attrs, t => (attrs, t)
  | rounds + 1, attrs, t =>
    let t := skipSpaces t
    if tagEnds t then (attrs, t)
    else
      match tagName? t with
      | none => readAttributes rounds attrs (skipJunk t)
      | some (name, t) =>
        let (value, t) := optionalValue t
        let attrs := if attrs.has name then attrs else attrs ++ [⟨name, some value⟩]
        readAttributes rounds attrs t

/-! ## Tags -/

/-- Reads a start tag from its name on.  An element without content, and one that its tag closes,
ends at once; one whose tag is cut off by the end of the page ends without an event.  After a tag
that leaves no element open the page is over. -/
def readStartTag (n : Nesting) (name t : Text) : (Nesting × List Event) × Text :=
  let (attrs, t) := readAttributes (t.length + 1) [] t
  let (n, events) := n.startTag name attrs
  let ((n, events), t) : (Nesting × List Event) × Text :=
    match t with
    | '/' :: '>' :: t =>
      let (n, closing) := Nesting.pop n
      ((n, events ++ closing), t)
    | '>' :: t =>
      if n.stack.head?.any voidTags.contains then
        let (n, closing) := Nesting.pop n
        ((n, events ++ closing), t)
      else ((n, events), t)
    | t => (({ n with stack := n.stack.drop 1 }, events), t)
  ((n, events), if n.stack.isEmpty then [] else t)

/-- Reads an end tag from its name on. -/
def readEndTag (n : Nesting) (t : Text) : (Nesting × List Event) × Text :=
  match tagName? t with
  | none => ((n, []), t)
  | some (name, t) => (n.endTag name, skipPast t)

end PagePress.Markup

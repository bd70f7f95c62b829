import PagePress.Markup.Tag

/-!
# Declarations of a page

What is neither a tag nor text: comments, instructions, document types, and declarations that are
none of these.  Only comments are told; but it counts for the tree of a page whether a document type
or an instruction stands before its first element.
-/

set_option autoImplicit false

namespace PagePress.Markup

/-- What is read of a page. -/
inductive Item where
  /-- An event. -/
  | event (e : Event)
  /-- An instruction. -/
  | instruction
  /-- A document type. -/
  | doctype
  deriving DecidableEq, Repr

/-- The event of an item, if it is one. -/
def Item.event? : Item → Option Event
  | .event e => some e
  | .instruction | .doctype => none

/-! ## Comments -/

/-- The text of a comment, up to its end, and the text after it. -/
def commentBody? : Text → Option (Text × Text)
  | '-' :: '-' :: '>' :: t => some ([], t)
  | '-' :: '-' :: '!' :: '>' :: t => some ([], t)
  | [] => none
  | c :: t => (commentBody? t).map fun (body, t) => (c :: body, t)

/-- A character as it is read in a text: the null character is a blank, and those that a page cannot
hold are nothing. -/
def readable? (c : Char) : Option Char :=
  if c == nullChar then some ' ' else if isPageChar c.toNat then some c else none

/-- Reads a comment after its opening mark.  One without an end is nothing, up to the end of the
page. -/
def readComment (t : Text) : List Item × Text :=
  match t with
  | '>' :: t | '-' :: '>' :: t => ([.event (.comment [])], t)
  | t =>
    match commentBody? t with
    | some (body, t) => ([.event (.comment (body.filterMap readable?))], t)
    | none => ([], [])

/-! ## Instructions and document types -/

/-- Reads an instruction after its opening mark, up to the next `>`; without a name the mark alone
goes. -/
def readInstruction (t : Text) : List Item × Text :=
  match name? t with
  | none => ([], t)
  | some (_, rest) =>
    match rest.dropWhile (· != '>') with
    | [] => ([], [])
    | _ :: rest => ([.instruction], rest)

/-- Passes over a literal in quotes, if there is one. -/
def skipLiteral (t : Text) : Text :=
  let past (quote : Char) (t : Text) : Text :=
    let rest := t.dropWhile fun c => c != quote && c != nullChar
    if rest.head? == some quote then rest.drop 1 else rest
  match skipSpaces t with
  | '"' :: t => past '"' t
  | '\'' :: t => past '\'' t
  | t => t

/-- Passes over a document type after its opening mark. -/
def skipDoctype (t : Text) : Text :=
  let t := skipSpaces t
  let t := skipSpaces (((name? t).map (·.2)).getD t)
  match dropWord? "system" t, dropWord? "public" t with
  | some t, _ => skipPast (skipLiteral t)
  | none, some t => skipPast (skipLiteral (skipLiteral t))
  | none, none => skipPast t

/-- Reads what follows `<!`. -/
def readDeclaration (t : Text) : List Item × Text :=
  match dropWord? "doctype" t, t with
  | some t, _ => ([.doctype], skipDoctype t)
  | none, '-' :: '-' :: t => readComment t
  | none, t => ([], skipPast t)

end PagePress.Markup

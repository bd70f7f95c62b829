import PagePress.Xml.Reading
import PagePress.Xml.Uri

/-!
# References and values

* `Reference` is what stands between an ampersand and a semicolon.
* `Reading.value` reads the value of an attribute.  References in it are replaced by what they stand
  for, at any depth up to `maxLevels`, and every blank is a space.
* `Reading.entityValue` reads what an entity stands for.  References to characters are replaced, and
  those to entities stay until the entity is used.
-/

set_option autoImplicit false

namespace PagePress.Xml

/-! ## References -/

/-- What is referred to. -/
inductive Reference where
  | char (c : Char)
  | entity (name : Text)
  deriving DecidableEq, Repr

/-- The characters of markup that have names. -/
def markNames : List (Text × Char) := [
  ("lt", '<'), ("gt", '>'), ("amp", '&'), ("quot", '"'), ("apos", '\'')]

/-- The character of a number. -/
def charOf? (base : Nat) (digits : Text) : Option Char :=
  let n := Markup.readNumber base digits
  if Markup.isPageChar n then some (Char.ofNat n) else none

/-- Reads what stands between an ampersand and a semicolon. -/
def Reference.ofText? (t : Text) : Option Reference :=
  match t with
  | '#' :: 'x' :: digits =>
    if digits.all Uri.isHex then (charOf? 16 digits).map .char else none
  | '#' :: digits => if digits.all Char.isDigit then (charOf? 10 digits).map .char else none
  | name =>
    match markNames.lookup name with
    | some c => some (.char c)
    | none => if isName name then some (.entity name) else none

namespace Reading

/-! ## Values of attributes -/

/-- Replaces the references of a text.  `expand` gives what the text of an entity stands for, and
`tidy` is done to all but the characters that are referred to. -/
def expandWith (tidy : Text → Text) (expand : Text → Reading Text) (t : Text) : Reading Text := do
  let pieces := Text.splitOn '&' t
  let parts ← (pieces.drop 1).mapM fun piece => do
    let some (ref, rest) := Text.cut? ";" piece | failure
    match Reference.ofText? ref with
    | none => failure
    | some (.char c) => return c :: tidy rest
    | some (.entity name) =>
      match ← entityText? name with
      | none => return tidy rest
      | some t =>
        guard (!t.contains '<')
        charge (cost t)
        return tidy (← expand t) ++ tidy rest
  return tidy (pieces.headD []) ++ parts.flatten

/-- What the text of an entity stands for, with at most the given number of levels. -/
def expandText : Nat → Text → Reading Text
  | 0, _ => failure
  | levels + 1, t => expandWith id (expandText levels) t

/-- Reads the value of an attribute. -/
def value (levels : Nat) : Reading Text := do
  let t ← quoted
  guard (!t.contains '<')
  expandWith (·.map fun c => if Markup.isSpace c then ' ' else c) (expandText levels) t

/-- A value without spaces at its ends and with single spaces inside. -/
def collapseSpaces (t : Text) : Text :=
  List.intercalate [' '] ((Text.splitOn ' ' t).filter (!·.isEmpty))

/-! ## Values of entities -/

/-- Replaces the references to characters, and checks that each ampersand begins a reference. -/
def expandChars? (t : Text) : Option Text := do
  let pieces := Text.splitOn '&' t
  let parts ← (pieces.drop 1).mapM fun piece => do
    let (ref, rest) ← Text.cut? ";" piece
    if piece.head? == some '#' then
      let .char c ← Reference.ofText? ref | none
      some (c :: rest)
    else if isName ref then some ('&' :: piece)
    else none
  some (pieces.headD [] ++ parts.flatten)

/-- Reads characters and parameters, if they are given here, in the value of an entity. -/
def expandParameters : Nat → Text → Reading Text
  | 0, _ => failure
  | levels + 1, t => do
    let pieces := Text.splitOn '%' t
    let some first := expandChars? (pieces.headD []) | failure
    let parts ← (pieces.drop 1).mapM fun piece => do
      let some (name, rest) := Text.cut? ";" piece | failure
      let some rest := expandChars? rest | failure
      guard (isName name)
      match (← get).doctype.parameters.lookup name with
      | some (.given t) =>
        charge (cost t)
        return (← expandParameters levels t) ++ rest
      | _ =>
        guard (!(← get).doctype.isStandalone)
        remark .warning
        return rest
    return first ++ parts.flatten

/-- Reads the value of an entity.  Parameters may stand only in the text of other parameters. -/
def entityValue (inParameter : Bool) : Reading Text := do
  let t ← quoted
  guard (inParameter || !t.contains '%')
  expandParameters maxLevels t

end Reading

end PagePress.Xml

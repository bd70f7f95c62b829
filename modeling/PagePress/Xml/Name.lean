import PagePress.Text.Ranges
import PagePress.Text.Search

/-!
# Names

* `isNameStart` and `isNameChar` are the characters that start names and those inside of them.
* `name?` and `token?` read a name, and a token of name characters, at the start of a text.
* `QName` is a name with what stands before its colon apart.
-/

set_option autoImplicit false

namespace PagePress.Xml

/-! ## Characters -/

/-- The characters that start names, the colon included. -/
def nameStartRanges : Text.Ranges := [
  (0x3A, 0x3A), (0x41, 0x5A), (0x5F, 0x5F), (0x61, 0x7A), (0xC0, 0xD6), (0xD8, 0xF6),
  (0xF8, 0x2FF), (0x370, 0x37D), (0x37F, 0x1FFF), (0x200C, 0x200D), (0x2070, 0x218F),
  (0x2C00, 0x2FEF), (0x3001, 0xD7FF), (0xF900, 0xFDCF), (0xFDF0, 0xFFFD), (0x10000, 0xEFFFF)]

/-- The characters that names hold, but not at their start. -/
def nameRestRanges : Text.Ranges := [
  (0x2D, 0x2E), (0x30, 0x39), (0xB7, 0xB7), (0x300, 0x36F), (0x203F, 0x2040)]

/-- Whether a character starts names. -/
def isNameStart (c : Char) : Bool := Text.inRanges nameStartRanges c

/-- Whether a character stands in names. -/
def isNameChar (c : Char) : Bool := isNameStart c || Text.inRanges nameRestRanges c

/-! ## Names in a text -/

/-- The most bytes of a name. -/
def maxNameSize : Nat := 50000

/-- The number of bytes of a text. -/
def byteSize (t : Text) : Nat := t.foldl (fun size c => size + c.utf8Size) 0

/-- A token of name characters at the start of a text, and the text after it. -/
def token? (t : Text) : Option (Text × Text) :=
  let token := t.takeWhile isNameChar
  if token.isEmpty || maxNameSize < byteSize token then none
  else some (token, t.dropWhile isNameChar)

/-- A name at the start of a text, and the text after it. -/
def name? (t : Text) : Option (Text × Text) :=
  if t.head?.any isNameStart then token? t else none

/-- Whether a text is a token. -/
def isToken (t : Text) : Bool := !t.isEmpty && t.all isNameChar

/-- Whether a text is a name. -/
def isName (t : Text) : Bool := t.head?.any isNameStart && t.all isNameChar

/-- Whether a text is a name without a colon. -/
def isPlainName (t : Text) : Bool := isName t && !t.contains ':'

/-! ## Qualified names -/

/-- A name in two parts. -/
structure QName where
  /-- What stands before the colon, if there is one. -/
  qualifier : Option Text
  /-- The name itself. -/
  base : Text
  deriving DecidableEq, Repr

/-- A qualified name as it is written. -/
def QName.written (n : QName) : Text :=
  match n.qualifier with
  | none => n.base
  | some q => q ++ ':' :: n.base

/-- The two parts of a name with at most one colon, each a name. -/
def QName.ofName? (name : Text) : Option QName :=
  match Text.splitOn ':' name with
  | [base] => if isPlainName base then some ⟨none, base⟩ else none
  | [q, base] => if isPlainName q && isPlainName base then some ⟨some q, base⟩ else none
  | _ => none

end PagePress.Xml

import PagePress.Text.Utf8

/-!
# Form encoding

The body of a request is a list of named values, joined by ampersands.  Letters, digits and four
signs stand for themselves, a space is a plus sign, and every other character is written byte by
byte.
-/

set_option autoImplicit false

namespace PagePress.Form

/-- The characters that stand for themselves. -/
def isPlain (c : Char) : Bool := c.isAlphanum || c == '_' || c == '.' || c == '-' || c == '~'

/-- A byte as a per cent sign and two capital hexadecimal digits. -/
def encodeByte (b : UInt8) : Text := '%' :: (Text.hexDigits 2 b.toNat).map Char.toUpper

/-- A character of a name or value. -/
def encodeChar (c : Char) : Text :=
  if isPlain c then [c] else if c == ' ' then ['+'] else (Utf8.encode [c]).flatMap encodeByte

/-- A name or value. -/
def encodeText (t : Text) : Text := t.flatMap encodeChar

/-- A named value. -/
def encodeField (field : Text × Text) : Text :=
  encodeText field.1 ++ '=' :: encodeText field.2

/-- The form encoding of named values. -/
def encode (fields : List (Text × Text)) : Text :=
  List.intercalate ['&'] (fields.map encodeField)

end PagePress.Form

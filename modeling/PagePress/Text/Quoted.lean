import PagePress.Text.Printable

/-!
# Quoted names

A name in a message stands between apostrophes, or between quotation marks if it has an apostrophe
and no quotation mark.  Backslashes and the delimiter are escaped, and so is what is not printable.
-/

set_option autoImplicit false

namespace PagePress.Text

/-- The small hexadecimal digit of a number below sixteen. -/
def hexDigit (d : Nat) : Char :=
  if d < 10 then Char.ofNat (0x30 + d) else Char.ofNat (0x57 + d)

/-- The last `width` hexadecimal digits of a number, the most significant first. -/
def hexDigits : Nat → Nat → Text
  | 0, _ => []
  | width + 1, n => hexDigits width (n / 16) ++ [hexDigit (n % 16)]

/-- A character as it stands between the delimiters `q`. -/
def escapeChar (q c : Char) : Text :=
  let n := c.toNat
  if c == q || c == '\\' then ['\\', c]
  else if c == '\n' then ['\\', 'n']
  else if c == '\r' then ['\\', 'r']
  else if c == '\t' then ['\\', 't']
  else if isPrintable c then [c]
  else if n ≤ 0xFF then '\\' :: 'x' :: hexDigits 2 n
  else if n ≤ 0xFFFF then '\\' :: 'u' :: hexDigits 4 n
  else '\\' :: 'U' :: hexDigits 8 n

/-- A name between its delimiters. -/
def quoted (t : Text) : Text :=
  let q := if t.contains '\'' && !t.contains '"' then '"' else '\''
  q :: t.flatMap (escapeChar q) ++ [q]

end PagePress.Text

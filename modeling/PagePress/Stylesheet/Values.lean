import PagePress.Fault
import PagePress.Text.Digit
import PagePress.Text.Search

/-!
# Values in stylesheets

The second half of compacting a stylesheet writes values in their shortest form: zeros without units
and without repetition, fractions without a zero before the point, and colours as few hexadecimal
digits.

A colour that is given by its components must have three, each a number; otherwise there is a fault.
-/

set_option autoImplicit false

namespace PagePress.Stylesheet

/-! ## Zeros -/

/-- A blank or a colon, after which a value begins. -/
def beginsValue (c : Char) : Bool := isBlank c || c == ':'

/-- The units that a zero does not need. -/
def units : List Text := ["px", "em", "%", "in", "cm", "mm", "pc", "pt", "ex"]

/-- Drops the unit of a zero. -/
def dropUnit : Text.Rule
  | c :: '0' :: t =>
    if beginsValue c then
      (units.find? fun u => (Text.after? u t).isSome).map fun u => ([c, '0'], u.length + 2)
    else none
  | _ => none

/-- Writes several zeros as one, but two for a position of a background. -/
def dropZeros (t : Text) : Text :=
  let t := Text.replace ":0 0 0 0;" ":0;" t
  let t := Text.replace ":0 0 0;" ":0;" t
  let t := Text.replace ":0 0;" ":0;" t
  Text.replace "background-position:0;" "background-position:0 0;" t

/-- Drops the zeros before the point of a fraction. -/
def dropLeadingZeros : Text.Rule
  | c :: t =>
    let zeros := t.takeWhile (· == '0')
    match t.dropWhile (· == '0') with
    | '.' :: rest =>
      let digits := rest.takeWhile Text.isDigit
      if beginsValue c && !zeros.isEmpty && !digits.isEmpty then
        some (c :: '.' :: digits, zeros.length + digits.length + 2)
      else none
    | _ => none
  | [] => none

/-! ## Colours -/

/-- The components of a colour at the start of a text, with the length of the colour. -/
def components? (t : Text) : Option (List Text × Nat) := do
  let body ← Text.after? "rgb" t
  let body ← Text.after? "(" (Text.stripStart body)
  let inside := body.takeWhile fun c => c.isDigit || c == ',' || isBlank c
  let rest ← Text.after? ")" (body.drop inside.length)
  if inside.isEmpty then none
  else some ((Text.splitOn ',' inside).map Text.strip, t.length - rest.length)

/-- The most digits that a number may be written with. -/
def maxDigits : Nat := 4300

/-- The number that decimal digits write. -/
def number (t : Text) : Except Fault Nat :=
  let count := (t.takeWhile Char.isDigit).length
  if maxDigits < count then .error (.tooManyDigits count)
  else if t.isEmpty || !t.all Char.isDigit then .error (.notANumber t)
  else .ok (t.foldl (fun n c => 10 * n + (c.toNat - 0x30)) 0)

/-- The hexadecimal digits of a number, two at least. -/
def hexPair (n : Nat) : Text :=
  let digits := Nat.toDigits 16 n
  if digits.length < 2 then '0' :: digits else digits

/-- The colour of components, in hexadecimal digits. -/
def hexColour (components : List Text) : Except Fault Text := do
  match ← components.mapM number with
  | [r, g, b] => .ok ('#' :: hexPair r ++ hexPair g ++ hexPair b)
  | [] | [_] | [_, _] => .error .componentsMissing
  | _ => .error .componentsLeftOver

/-- Writes colours given by their components in hexadecimal digits, in a text of which the first
`skip` characters are already replaced. -/
def toHexAfter : Nat → Text → Except Fault Text
  | _, [] => .ok []
  | skip + 1, _ :: cs => toHexAfter skip cs
  | 0, c :: cs =>
    match components? (c :: cs) with
    | some (components, n) => do
      let colour ← hexColour components
      let rest ← toHexAfter (n - 1) cs
      .ok (colour ++ rest)
    | none => (toHexAfter 0 cs).map (c :: ·)

/-- Writes colours given by their components in hexadecimal digits. -/
def toHex (t : Text) : Except Fault Text := toHexAfter 0 t

/-- A colour of six digits, with what stands before it. -/
structure Colour where
  /-- The number of characters before. -/
  offset : Nat
  /-- The character before, and the blanks between. -/
  lead : Text
  /-- The six digits. -/
  digits : Text
  deriving DecidableEq, Repr

/-- The hexadecimal digits. -/
def isHex (c : Char) : Bool := c.isDigit || ('a' ≤ c && c ≤ 'f') || ('A' ≤ c && c ≤ 'F')

/-- The characters that a colour may stand after. -/
def precedesColour (c : Char) : Bool := c != '"' && c != '\'' && c != '=' && !isBlank c

/-- The first colour of six digits in a text. -/
def findColour? : Text → Option Colour
  | [] => none
  | c :: cs =>
    let blanks := cs.takeWhile isBlank
    let digits := (cs.drop (blanks.length + 1)).take 6
    if precedesColour c && (cs.drop blanks.length).head? == some '#' && digits.length == 6 &&
        digits.all isHex then
      some ⟨0, c :: blanks, digits⟩
    else (findColour? cs).map fun k => { k with offset := k.offset + 1 }

/-- The colour as it is written. -/
def Colour.text (k : Colour) : Text := k.lead ++ '#' :: k.digits

/-- The colour with one digit of each pair, if the digits of each pair are the same. -/
def Colour.short? (k : Colour) : Option Text :=
  match k.digits with
  | [r, r', g, g', b, b'] =>
    if [r, g, b].map Char.toLower == [r', g', b'].map Char.toLower then
      some (k.lead ++ ['#', r, g, b])
    else none
  | _ => none

/-- Shortens the colours of a stylesheet from a place on.  A colour that can be shortened is so
wherever it stands after the same characters, and the search goes on three characters before where
it ended.  Each round gets ahead, so there are no more rounds than characters. -/
def shortenFrom : Nat → Nat → Text → Text
  | 0, _, t => t
  | rounds + 1, place, t =>
    match findColour? (t.drop place) with
    | none => t
    | some k =>
      let stop := place + k.offset + k.text.length
      match k.short? with
      | some short => shortenFrom rounds (stop - 3) (Text.replace k.text short t)
      | none => shortenFrom rounds stop t

/-- Writes colours of six digits with three where that says the same. -/
def shortenColours (t : Text) : Text := shortenFrom t.length 0 t

end PagePress.Stylesheet

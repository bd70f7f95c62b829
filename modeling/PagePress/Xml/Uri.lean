import PagePress.Text.Search

/-!
# Addresses of resources

A `Uri` is the form of an address: its scheme, if it has one, and whether it points to a part of the
resource.  `Uri.ofText?` reads an address, absolute or relative, and refuses any text that is none.

An address is `scheme:place?query#part`, where all but the place may be missing.  The place is a
path, or `//authority` and then a path that is empty or starts with a slash.
-/

set_option autoImplicit false

namespace PagePress.Xml

/-- What is known of an address. -/
structure Uri where
  scheme : Option Text
  hasPart : Bool
  deriving DecidableEq, Repr

namespace Uri

/-! ## Characters -/

/-- The hexadecimal digits. -/
def isHex (c : Char) : Bool := c.isDigit || ('a' ≤ c && c ≤ 'f') || ('A' ≤ c && c ≤ 'F')

/-- The characters that mean nothing in an address. -/
def isUnreserved (c : Char) : Bool := c.isAlphanum || "-._~".contains c

/-- The characters that divide the parts of an address in ways of its own. -/
def isDivider (c : Char) : Bool := "!$&'()*+,;=".contains c

/-- The text after the characters of a class, and characters given by `%` and two digits, that it
starts with. -/
def skip (p : Char → Bool) : Text → Text
  | '%' :: a :: b :: t => if isHex a && isHex b then skip p t else '%' :: a :: b :: t
  | c :: t => if c != '%' && p c then skip p t else c :: t
  | [] => []

/-- The characters of a step of a path. -/
def isStepChar (c : Char) : Bool := isUnreserved c || isDivider c || c == ':' || c == '@'

/-! ## Parts -/

/-- The text after the number of a host.  It has at least one digit and stays below 2³¹. -/
def afterNumber? (t : Text) : Option Text :=
  let digits := t.takeWhile Char.isDigit
  let number := digits.foldl (fun n c => 10 * n + (c.toNat - '0'.toNat)) 0
  if digits.isEmpty || 0x7FFFFFFF < number then none else some (t.dropWhile Char.isDigit)

/-- The text after the host of an authority. -/
def afterHost? (t : Text) : Option Text :=
  match t with
  | '[' :: t => (Text.cut? "]" t).map (·.2)
  | t => some (skip (fun c => isUnreserved c || isDivider c) t)

/-- The text after an authority: a user, a host and its number. -/
def afterAuthority? (t : Text) : Option Text := do
  let user := skip (fun c => isUnreserved c || isDivider c || c == ':') t
  let host := if user.head? == some '@' then user.drop 1 else t
  let t ← afterHost? host
  match t with
  | ':' :: t => afterNumber? t
  | t => some t

/-- The text after steps of a path, each with a slash before it. -/
def afterSteps (t : Text) : Text := skip (fun c => isStepChar c || c == '/') t

/-- The text after a place.  In a relative address the first step of a path has no colon. -/
def afterPlace? (isRelative : Bool) (t : Text) : Option Text :=
  match t with
  | '/' :: '/' :: t => do
    let t ← afterAuthority? t
    some (if t.head? == some '/' then afterSteps t else t)
  | '/' :: _ => some (afterSteps t)
  | t =>
    let rest := skip (fun c => isStepChar c && !(isRelative && c == ':')) t
    some (if rest.head? == some '/' && rest.length < t.length then afterSteps rest else rest)

/-- Whether an address ends with a query and a part, or without them; if so, whether it has a
part. -/
def ending? (t : Text) : Option Bool :=
  let isQueryChar (c : Char) : Bool := isStepChar c || c == '/' || c == '?'
  let t := if t.head? == some '?' then skip isQueryChar (t.drop 1) else t
  match t with
  | [] => some false
  | '#' :: t =>
    if (skip (fun c => isQueryChar c || c == '[' || c == ']') t).isEmpty then some true else none
  | _ => none

/-- The scheme at the start of an address, and the text after its colon. -/
def scheme? (t : Text) : Option (Text × Text) :=
  let isSchemeChar (c : Char) : Bool := c.isAlphanum || c == '+' || c == '-' || c == '.'
  if t.head?.any Char.isAlpha then
    (Text.after? ":" (t.dropWhile isSchemeChar)).map fun rest => (t.takeWhile isSchemeChar, rest)
  else none

/-- Reads an address with a scheme. -/
def absolute? (t : Text) : Option Uri := do
  let (scheme, t) ← scheme? t
  let t ← afterPlace? false t
  let hasPart ← ending? t
  some ⟨some scheme, hasPart⟩

/-- Reads an address without a scheme. -/
def relative? (t : Text) : Option Uri := do
  let t ← afterPlace? true t
  let hasPart ← ending? t
  some ⟨none, hasPart⟩

/-- Reads an address. -/
def ofText? (t : Text) : Option Uri :=
  match absolute? t with
  | some uri => some uri
  | none => relative? t

end Uri

end PagePress.Xml

import PagePress.Text.CaseTable

/-!
# Letter case

`Text.lower` is the lower case of a text.  Most letters have a lower case of one character; the
capital dotted I has one of two.  A capital sigma at the end of a word becomes the final sigma.

`Text.dropCaseless?` takes a word off the start of a text in any letter case.  A letter of the word
also stands for the other characters with the same upper case: `ı` for `i`, `ſ` for `s`; and for
those with the same simple lower case: `İ` for `i`, the Kelvin sign for `k`.
-/

set_option autoImplicit false

namespace PagePress.Text

/-- The lower case of one character, a sigma apart. -/
def lowerChar (c : Char) : Text :=
  if c.toNat < 0x80 then [c.toLower]
  else if c == 'İ' then ['i', Char.ofNat 0x307]
  else [((caseRows.findSome? (·.lower? c.toNat)).map Char.ofNat).getD c]

/-- The characters that have letter case. -/
def isCased (c : Char) : Bool := inRanges casedRanges c

/-- The characters that a word may hold without an effect on its letter case. -/
def isCaseIgnorable (c : Char) : Bool := inRanges caseIgnorableRanges c

/-- Whether the word goes on: the next character that is not ignorable has letter case. -/
def wordGoesOn (t : Text) : Bool :=
  match t.dropWhile isCaseIgnorable with
  | [] => false
  | c :: _ => isCased c

/-- Lower-cases a text; `inWord` says whether a letter of the same word stands before it. -/
def lowerAfter : Bool → Text → Text
  | _, [] => []
  | inWord, c :: cs =>
    if c == 'Σ' then
      (if inWord && !wordGoesOn cs then 'ς' else 'σ') :: lowerAfter true cs
    else lowerChar c ++ lowerAfter (if isCaseIgnorable c then inWord else isCased c) cs

/-- The lower case of a text. -/
def lower (t : Text) : Text := lowerAfter false t

/-- Whether `c` stands for the small Latin letter `p` when letter case does not count; a `p` that is
no letter stands for itself only. -/
def sameLetter (p c : Char) : Bool :=
  c == p || c.toLower == p || (p == 'i' && (c == 'İ' || c == 'ı')) || (p == 's' && c == 'ſ') ||
    (p == 'k' && c.toNat == 0x212A)

/-- The rest of a text that starts with the small letters `p` in any letter case. -/
def dropCaseless? : Text → Text → Option Text
  | [], t => some t
  | _ :: _, [] => none
  | p :: ps, c :: cs => if sameLetter p c then dropCaseless? ps cs else none

/-- The number of characters up to the end of the first occurrence of `p` in any letter case. -/
def findCaseless? (p : Text) : Text → Option Nat
  | [] => if p.isEmpty then some 0 else none
  | c :: cs =>
    match dropCaseless? p (c :: cs) with
    | some _ => some p.length
    | none => (findCaseless? p cs).map (· + 1)

end PagePress.Text

import PagePress.Text.Digit
import PagePress.Text.Search

/-!
# Comments and blanks in stylesheets

The first half of compacting a stylesheet takes out what separates nothing: comments, and blanks
beside signs.

* `dropComments` keeps a comment that starts with an exclamation mark, and hides the pair of
  comments that one browser family needs: one that ends in a backslash, and the next.
* A colon in the selector of a rule may stand after a blank that means something.  `guardColons`
  puts a mark in its place while blanks are taken out.
* `placeCharset` puts a character set rule first, and keeps one only.
-/

set_option autoImplicit false

namespace PagePress.Stylesheet

/-! ## Comments -/

/-- The stylesheet without comments; `paired` says whether the next comment belongs to one that
ended in a backslash, and stays. -/
def dropCommentsAfter (paired : Bool) (t : Text) : Text :=
  match _h : Text.cut? ['/', '*'] t with
  | none => t
  | some (before, body) =>
    match _k : Text.cut? ['*', '/'] body with
    | none => if body.head? == some '!' then t else before
    | some (inside, rest) =>
      let kept : Text := before ++ "/*" ++ inside ++ "*/"
      if inside.getLast? == some '\\' then kept ++ dropCommentsAfter true rest
      else if paired || inside.head? == some '!' then kept ++ dropCommentsAfter false rest
      else before ++ dropCommentsAfter false rest
termination_by t.length
decreasing_by
  all_goals
    have h := Text.length_cut? _h
    have k := Text.length_cut? _k
    simp only [List.length_cons, List.length_nil] at h k
    omega

/-- The stylesheet without comments. -/
def dropComments (t : Text) : Text := dropCommentsAfter false t

/-! ## Colons of selectors -/

/-- The mark for a colon that blanks before it do not join. -/
def colonMark : Text := "___PSEUDOCLASSCOLON___"

/-- Marks the colons of the selector at the start of the text, if there is a selector with a colon
that is not its first character; gives what is done and what is left. -/
def guardSelector (t : Text) : Text × Text :=
  match Text.cut? ['{'] t with
  | none => ([], t)
  | some (selector, rest) =>
    if selector.contains ':' && selector.head? != some ':' then
      (Text.replace [':'] colonMark selector ++ ['{'], rest)
    else ([], t)

theorem length_guardSelector (t : Text) : (guardSelector t).2.length ≤ t.length := by
  rw [guardSelector]
  split
  · exact Nat.le_refl _
  · rename_i h
    have := Text.length_cut? h
    split
    · simp only; omega
    · exact Nat.le_refl _

/-- Marks the colons of the selectors of a stylesheet: of the one it starts with, and of those after
a closing brace. -/
def guardColons (t : Text) : Text :=
  let (done, rest) := guardSelector t
  match _h : Text.cut? ['}'] (guardSelector t).2 with
  | none => done ++ rest
  | some (before, rest) => done ++ before ++ '}' :: guardColons rest
termination_by t.length
decreasing_by
  have h := Text.length_cut? _h
  have := length_guardSelector t
  simp only [List.length_cons, List.length_nil] at h
  omega

/-- The stylesheet with the marks turned back into colons. -/
def releaseColons (t : Text) : Text := Text.replace colonMark [':'] t

/-! ## Blanks beside signs -/

/-- The signs that need no blank before them. -/
def takesNoBlankBefore (c : Char) : Bool :=
  ['!', '{', '}', ';', ':', '>', '+', '(', ')', ']', ','].contains c

/-- The signs that need no blank after them. -/
def takesNoBlankAfter (c : Char) : Bool :=
  ['!', '{', '}', ':', ';', '>', '+', '(', '[', ','].contains c

/-- Drops the blanks before a sign. -/
def dropBlanksBefore : Text.Rule := fun t =>
  match t.dropWhile isBlank with
  | c :: _ =>
    let n := (t.takeWhile isBlank).length
    if 0 < n && takesNoBlankBefore c then some ([c], n + 1) else none
  | [] => none

/-- Drops the blanks after a sign. -/
def dropBlanksAfter : Text.Rule
  | c :: t =>
    let n := (t.takeWhile isBlank).length
    if 0 < n && takesNoBlankAfter c then some ([c], n + 1) else none
  | [] => none

/-! ## Character set rules -/

/-- The character set rule, with its name in quotes, at the start of a text. -/
def charsetAt? (t : Text) : Option (Text × Text) := do
  let body ← Text.after? "@charset \"" t
  let rest ← Text.after? "\";" (body.dropWhile (· != '"'))
  some ("@charset \"" ++ body.takeWhile (· != '"') ++ "\";", rest)

/-- The last character set rule of a text, between what stands before and after it. -/
def lastCharset? : Text → Option (Text × Text × Text)
  | [] => none
  | c :: cs =>
    match lastCharset? cs with
    | some (before, rule, rest) => some (c :: before, rule, rest)
    | none => (charsetAt? (c :: cs)).map fun (rule, rest) => ([], rule, rest)

/-- The text with its last character set rule put first. -/
def moveCharset (t : Text) : Text :=
  match lastCharset? t with
  | some (before, rule, rest) => rule ++ before ++ rest
  | none => t

/-- The text after the character set rule that it starts with, and after the blanks around that. -/
def afterCharset? (t : Text) : Option Text := do
  let body ← Text.after? "@charset " (Text.stripStart t)
  match body.dropWhile (· != ';') with
  | _ :: rest => if body.head? == some ';' then none else some (Text.stripStart rest)
  | [] => none

theorem length_afterCharset? {t rest : Text} (h : afterCharset? t = some rest) :
    rest.length < t.length := by
  simp only [afterCharset?, Option.bind_eq_bind, Option.bind_eq_some_iff] at h
  obtain ⟨body, hb, h⟩ := h
  have hb := congrArg List.length (Text.after?_eq_some_iff.mp hb)
  have hs : (Text.stripStart t).length ≤ t.length := (List.dropWhile_suffix _).length_le
  have hd : (body.dropWhile (· != ';')).length ≤ body.length := (List.dropWhile_suffix _).length_le
  split at h
  · rename_i d ds hds
    split at h
    · simp at h
    · simp only [Option.some.injEq] at h
      have hr : rest.length ≤ ds.length := h ▸ (List.dropWhile_suffix _).length_le
      rw [hds, List.length_cons] at hd
      rw [List.length_append] at hb
      omega
  · simp at h

/-- The text with the last only of the character set rules that it starts with. -/
def keepLastCharset (t : Text) : Text :=
  match _h : afterCharset? t with
  | none => t
  | some rest =>
    match afterCharset? rest with
    | none => t
    | some _ => keepLastCharset rest
termination_by t.length
decreasing_by exact length_afterCharset? _h

/-- The text with one character set rule at most at its start, the last. -/
def placeCharset (t : Text) : Text := keepLastCharset (moveCharset t)

/-! ## All together -/

/-- Puts a space between the word `and` and a bracket; `inWord` says whether a character of the same
word stands before the text. -/
def spaceAndAfter : Bool → Text → Text
  | _, [] => []
  | inWord, c :: cs =>
    if !inWord && (Text.after? "and(" (c :: cs)).isSome then
      match cs with
      | _ :: _ :: _ :: rest => "and (" ++ spaceAndAfter false rest
      | _ => c :: cs
    else c :: spaceAndAfter (Text.isWordChar c) cs

/-- Puts a space between the word `and` and a bracket. -/
def spaceAnd (t : Text) : Text := spaceAndAfter false t

/-- The stylesheet without the blanks that separate nothing. -/
def dropBlanks (t : Text) : Text :=
  let t := Text.substitute dropBlanksBefore (guardColons t)
  Text.substitute dropBlanksAfter (releaseColons (spaceAnd (placeCharset t)))

end PagePress.Stylesheet

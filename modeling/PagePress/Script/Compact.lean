import PagePress.Text.Search

/-!
# Compact scripts

`Script.compact` leaves away the comments and the blanks of a script that separate nothing.  It
reads the script once from left to right and keeps a small `Writer`: the last character that was no
blank, whether a space or a line end is owed before the next character, and whether the last word
written is `return`, after which a slash opens a regular expression.

* A line end is owed where a statement may end before it and one may begin after it.
* A space is owed between two characters of words, and between two like signs.
* Strings and regular expressions are copied; a string that is not closed is lost after its quote.
* A comment that starts with an exclamation mark is kept.
-/

set_option autoImplicit false

namespace PagePress.Script

/-! ## Classes of characters -/

/-- The blanks and control characters of scripts. -/
def isGap (c : Char) : Bool := c < '!'

/-- The ends of lines. -/
def isLineEnd (c : Char) : Bool := c == '\r' || c == '\n'

/-- The ASCII characters of words. -/
def isWord (c : Char) : Bool := c.isAlphanum || c == '_' || c == '$' || c == '\\'

/-- The characters of words and all beyond ASCII. -/
def isWide (c : Char) : Bool := isWord c || '~' < c

/-- The quotes of strings. -/
def isQuote (c : Char) : Bool := c == '\'' || c == '"'

/-- The characters after which a statement may end. -/
def endsStatement (c : Char) : Bool := "\x7d])+-/".toList.contains c || isQuote c || isWide c

/-- The characters with which a statement may begin. -/
def beginsStatement (c : Char) : Bool := "\x7b[(+-/".toList.contains c || isQuote c || isWide c

/-- The characters after which a slash opens a regular expression. -/
def precedesRegex (c : Char) : Bool := "\x7b(,=:[?!&|;".toList.contains c

/-! ## Strings, regular expressions and comments -/

/-- The rest of a string up to its closing quote, and the text after it; `escaped` says whether the
next character is escaped. -/
def closeQuote? (q : Char) : Bool → Text → Option (Text × Text)
  | _, [] => none
  | escaped, c :: cs =>
    if c == q && !escaped then some ([c], cs)
    else (closeQuote? q (c == '\\' && !escaped) cs).map fun (body, rest) => (c :: body, rest)

theorem length_closeQuote? {q : Char} {t body rest : Text} {escaped : Bool}
    (h : closeQuote? q escaped t = some (body, rest)) : rest.length ≤ t.length := by
  induction t generalizing escaped body with
  | nil => simp [closeQuote?] at h
  | cons c cs ih =>
    rw [closeQuote?] at h
    split at h
    · simp only [Option.some.injEq, Prod.mk.injEq] at h
      simp [← h.2]
    · simp only [Option.map_eq_some_iff, Prod.exists, Prod.mk.injEq] at h
      obtain ⟨body, rest, h, _, rfl⟩ := h
      exact Nat.le_succ_of_le (ih h)

/-- The body of a regular expression, without the closing slash, and the text after that slash.  In
a class of characters a slash does not close, and the first character of a class counts as one of
its members. -/
def regexBody : Bool → Text → Text × Text
  | _, [] => ([], [])
  | inClass, c :: cs =>
    if c == '/' && !inClass then ([], cs)
    else if c == '\\' || c == '[' then
      match cs with
      | [] => ([c], [])
      | d :: ds =>
        let (body, rest) := regexBody (inClass || c == '[') ds
        (c :: d :: body, rest)
    else
      let (body, rest) := regexBody (inClass && c != ']') cs
      (c :: body, rest)

theorem length_regexBody (inClass : Bool) (t : Text) :
    (regexBody inClass t).2.length ≤ t.length := by
  fun_induction regexBody inClass t with
  | case1 => simp
  | case2 => simp
  | case3 => simp
  | case4 inClass c _ _ d ds body rest h ih => simp only [h, List.length_cons] at ih ⊢; omega
  | case5 inClass c cs _ _ body rest h ih => simp only [h, List.length_cons] at ih ⊢; omega

/-- The text after a line comment, the ends of lines that follow it left away. -/
def afterLine (t : Text) : Text := (t.dropWhile (!isLineEnd ·)).dropWhile isLineEnd

/-- What is written for a block comment, and the text after it. -/
def blockComment (t : Text) : Text × Text :=
  match Text.cut? "*/" t with
  | none => ([], [])
  | some (body, rest) =>
    if body.head? == some '!' then ("/*" ++ body ++ "*/\n", rest) else ([], rest)

/-! ## Writing -/

/-- What is known of the script that is written so far. -/
structure Writer where
  /-- The last character read that is no gap. -/
  last : Char := ';'
  /-- A line end is owed. -/
  owesLine : Bool := false
  /-- A space is owed. -/
  owesSpace : Bool := false
  /-- The letters of `return` written in a row. -/
  word : Text := []
  /-- The last word written is `return`. -/
  afterReturn : Bool := false
  deriving DecidableEq, Repr

namespace Writer

/-- The writer after a character. -/
def wrote (w : Writer) (c : Char) : Writer :=
  if "return".toList.contains c then
    let word := w.word ++ [c]
    if word == "return" then { w with word := [], afterReturn := true }
    else { w with word := word, afterReturn := false }
  else { w with word := [], afterReturn := w.afterReturn && isGap c }

/-- The writer at the end of a line before the given text: the line end is owed if it may end a
statement. -/
def endLine (w : Writer) (t : Text) : Writer × Text :=
  if endsStatement w.last then
    let rest := t.dropWhile isGap
    ({ w with owesLine := w.owesLine || rest.head?.any beginsStatement }, rest)
  else (w, t)

/-- The writer at a gap before the given text, with what is written there. -/
def gap (w : Writer) (t : Text) : Text × Writer :=
  let next := t.head?
  if isWide w.last && next.any isWide then ([], { w with owesSpace := true })
  else if (w.last == '-' || w.last == '+') && next == some w.last then
    ([], { w with owesSpace := true })
  else if w.afterReturn && next == some '/' then ([' '], w.wrote ' ')
  else ([], w)

/-- Writes the line end or the space that is owed. -/
def settle (w : Writer) : Text × Writer :=
  if w.owesLine then (['\n'], { w.wrote '\n' with owesLine := false, owesSpace := false })
  else if w.owesSpace then ([' '], { w.wrote ' ' with owesSpace := false })
  else ([], w)

/-- Writes a character of the script. -/
def put (w : Writer) (c : Char) : Writer := { w.wrote c with last := c }

theorem length_endLine (w : Writer) (t : Text) : (w.endLine t).2.length ≤ t.length := by
  rw [endLine]
  split
  · exact (List.dropWhile_suffix _).length_le
  · exact Nat.le_refl _

end Writer

/-! ## Reading -/

theorem length_afterLine (t : Text) : (afterLine t).length ≤ t.length :=
  Nat.le_trans (List.dropWhile_suffix _).length_le (List.dropWhile_suffix _).length_le

theorem length_blockComment (t : Text) : (blockComment t).2.length ≤ t.length := by
  rw [blockComment]
  split
  · simp
  · rename_i h
    have := Text.length_cut? h
    split <;> (simp only; omega)

/-- The compact form of the script that follows what is written so far. -/
def compactAfter (w : Writer) : Text → Text
  | [] => []
  | c :: t =>
    if isLineEnd c then compactAfter (w.endLine t).1 (w.endLine t).2
    else if isGap c then (w.gap t).1 ++ compactAfter (w.gap t).2 t
    else if c == '/' then
      let (space, w) : Text × Writer := if w.owesSpace then ([' '], w.wrote ' ') else ([], w)
      space ++
        match t with
        | '/' :: t => compactAfter (w.endLine (afterLine t)).1 (w.endLine (afterLine t)).2
        | '*' :: t =>
          (blockComment t).1 ++
            compactAfter { w with owesSpace := w.owesSpace || isWord w.last } (blockComment t).2
        | t =>
          if precedesRegex w.last || w.afterReturn then
            '/' :: (regexBody false t).1 ++
              '/' :: compactAfter { w with word := [], last := '/' } (regexBody false t).2
          else '/' :: compactAfter (w.put '/') t
    else
      let (owed, w) := w.settle
      owed ++ c ::
        if isQuote c then
          match _h : closeQuote? c false t with
          | none => []
          | some (body, rest) =>
            body ++ compactAfter { w with last := c, word := [], afterReturn := false } rest
        else compactAfter (w.put c) t
termination_by t => t.length
decreasing_by
  all_goals simp only [List.length_cons]
  · exact Nat.lt_succ_of_le (Writer.length_endLine _ _)
  · exact Nat.lt_succ_self _
  · have := Nat.le_trans (Writer.length_endLine w (afterLine t)) (length_afterLine t); omega
  · have := length_blockComment t; omega
  · have := length_regexBody false t; omega
  · exact Nat.lt_succ_self _
  · have := length_closeQuote? _h; omega
  · exact Nat.lt_succ_self _

/-- The compact form of a script. -/
def compact (t : Text) : Text := compactAfter {} t

end PagePress.Script

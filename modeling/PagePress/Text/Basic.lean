/-!
# Texts and blanks

A text is the list of its characters, so that every function on texts is a recursion on a list and
every statement about texts is a statement about lists.

* `isBlank` is the class of blank characters: the white space of Unicode, the four information
  separators included, and no zero-width character.
* `Text.stripStart`, `Text.stripEnd` and `Text.strip` take blanks off the ends.
* `Text.collapse` writes every run of two or more blanks as one space and keeps a single blank as
  it is.
* `Text.squeeze` writes every run of characters of a class, even a run of one, as one space.
-/

set_option autoImplicit false

namespace PagePress

/-- A text is the list of its characters. -/
abbrev Text := List Char

/-- A string literal stands for the text of its characters. -/
instance : Coe String Text := ⟨String.toList⟩

/-- The blank characters. -/
def isBlank (c : Char) : Bool :=
  let n := c.toNat
  (0x09 ≤ n && n ≤ 0x0D) || (0x1C ≤ n && n ≤ 0x20) || n == 0x85 || n == 0xA0 || n == 0x1680 ||
    (0x2000 ≤ n && n ≤ 0x200A) || n == 0x2028 || n == 0x2029 || n == 0x202F || n == 0x205F ||
    n == 0x3000

namespace Text

/-! ## The ends of a text -/

/-- The text has no character but blanks. -/
def allBlank (t : Text) : Bool := t.all isBlank

/-- The text without the blanks it starts with. -/
def stripStart (t : Text) : Text := t.dropWhile isBlank

/-- The text without the blanks it ends with. -/
def stripEnd : Text → Text
  | [] => []
  | c :: cs =>
    match stripEnd cs with
    | [] => if isBlank c then [] else [c]
    | rest => c :: rest

/-- The text without the blanks at its two ends. -/
def strip (t : Text) : Text := stripEnd (stripStart t)

/-- The text without its last character, if that is a line feed.  Several tests let one final line
feed pass. -/
def dropFinalNewline (t : Text) : Text :=
  if t.getLast? == some '\n' then t.dropLast else t

/-- The rest of `t` after the beginning `p`, if `t` begins with `p`. -/
def after? : Text → Text → Option Text
  | [], t => some t
  | _ :: _, [] => none
  | p :: ps, c :: cs => if p = c then after? ps cs else none

/-- The part of `t` before the ending `e`, if `t` ends with `e`. -/
def before? (e t : Text) : Option Text := (after? e.reverse t.reverse).map List.reverse

theorem after?_eq_some_iff {p t rest : Text} : after? p t = some rest ↔ t = p ++ rest := by
  fun_induction after? p t with
  | case1 t => simp
  | case2 => simp
  | case3 p ps cs ih => simp [ih]
  | case4 p ps c cs h => simp [Ne.symm h]

theorem isSome_after?_iff {p t : Text} : (after? p t).isSome = true ↔ p <+: t := by
  simp only [Option.isSome_iff_exists, after?_eq_some_iff]
  exact exists_congr fun _ => eq_comm

theorem before?_eq_some_iff {e t rest : Text} : before? e t = some rest ↔ t = rest ++ e := by
  simp only [before?, Option.map_eq_some_iff, after?_eq_some_iff]
  constructor
  · rintro ⟨r, h, rfl⟩
    rw [← List.reverse_reverse t, h, List.reverse_append, List.reverse_reverse]
  · rintro rfl
    exact ⟨rest.reverse, by simp, by simp⟩

/-! ## Runs of blanks -/

/-- The blanks read since the last other character. -/
inductive Gap where
  /-- No blank. -/
  | none
  /-- One blank, which is kept as it is. -/
  | single (c : Char)
  /-- Two or more blanks, which are written as one space. -/
  | wide
  deriving DecidableEq, Repr

/-- What is written for the blanks of a gap. -/
def Gap.text : Gap → Text
  | .none => []
  | .single c => [c]
  | .wide => [' ']

/-- The gap with one more blank. -/
def Gap.add : Gap → Char → Gap
  | .none, c => .single c
  | _, _ => .wide

/-- Collapses a text that follows the blanks of a gap. -/
def collapseAfter : Gap → Text → Text
  | g, [] => g.text
  | g, c :: cs =>
    if isBlank c then collapseAfter (g.add c) cs else g.text ++ c :: collapseAfter .none cs

/-- The text with every run of two or more blanks written as one space. -/
def collapse (t : Text) : Text := collapseAfter .none t

/-- The text with every run of characters of the class `p` written as one space; `inRun` says
whether the character before was one of them. -/
def squeezeAfter (p : Char → Bool) : Bool → Text → Text
  | _, [] => []
  | inRun, c :: cs =>
    if p c then
      if inRun then squeezeAfter p true cs else ' ' :: squeezeAfter p true cs
    else c :: squeezeAfter p false cs

/-- The text with every run of characters of the class `p` written as one space. -/
def squeeze (p : Char → Bool) (t : Text) : Text := squeezeAfter p false t

end Text

end PagePress

import PagePress.Text.Basic

/-!
# Ink

The ink of a text is all of it but its blanks.  Taking blanks off the ends of a text and collapsing
its runs of blanks both leave the ink as it is, which is what makes it the measure of what a
shortening may not touch.
-/

set_option autoImplicit false

namespace PagePress.Text

/-- The characters of a text that are no blanks. -/
def ink (t : Text) : Text := t.filter (!isBlank ·)

@[simp] theorem ink_nil : ink [] = [] := rfl

@[simp] theorem ink_append (t u : Text) : ink (t ++ u) = ink t ++ ink u := List.filter_append ..

theorem ink_cons_of_blank {c : Char} (hc : isBlank c = true) (t : Text) :
    ink (c :: t) = ink t := by
  rw [ink, List.filter_cons_of_neg (by simp [hc]), ink]

theorem ink_cons_of_not_blank {c : Char} (hc : isBlank c = false) (t : Text) :
    ink (c :: t) = c :: ink t := by
  rw [ink, List.filter_cons_of_pos (by simp [hc]), ink]

theorem ink_eq_nil_iff {t : Text} : ink t = [] ↔ allBlank t = true := by
  simp [ink, allBlank]

/-! ## Blanks at the ends -/

theorem ink_stripStart (t : Text) : ink (stripStart t) = ink t := by
  induction t with
  | nil => rfl
  | cons c cs ih =>
    rw [stripStart, List.dropWhile_cons]
    by_cases hc : isBlank c = true
    · rw [if_pos hc, ink_cons_of_blank hc]
      exact ih
    · rw [if_neg hc]

theorem ink_stripEnd (t : Text) : ink (stripEnd t) = ink t := by
  induction t with
  | nil => rfl
  | cons c cs ih =>
    rw [stripEnd]
    split
    · rename_i hnil
      rw [hnil, ink_nil] at ih
      by_cases hc : isBlank c = true
      · rw [if_pos hc, ink_cons_of_blank hc, ← ih, ink_nil]
      · rw [if_neg hc, ink_cons_of_not_blank (by simpa using hc),
          ink_cons_of_not_blank (by simpa using hc), ← ih, ink_nil]
    · by_cases hc : isBlank c = true
      · rw [ink_cons_of_blank hc, ink_cons_of_blank hc, ih]
      · rw [ink_cons_of_not_blank (by simpa using hc),
          ink_cons_of_not_blank (by simpa using hc), ih]

theorem ink_strip (t : Text) : ink (strip t) = ink t := by
  rw [strip, ink_stripEnd, ink_stripStart]

/-! ## Runs of blanks -/

/-- A gap is written with blanks only. -/
theorem ink_gap_add {g : Gap} (hg : ink g.text = []) {c : Char} (hc : isBlank c = true) :
    ink (g.add c).text = [] := by
  cases g with
  | none => rw [Gap.add, Gap.text, ink_cons_of_blank hc, ink_nil]
  | single d => rfl
  | wide => rfl

theorem ink_collapseAfter {g : Gap} (hg : ink g.text = []) (t : Text) :
    ink (collapseAfter g t) = ink t := by
  induction t generalizing g with
  | nil => exact hg
  | cons c cs ih =>
    rw [collapseAfter]
    by_cases hc : isBlank c = true
    · rw [if_pos hc, ih (ink_gap_add hg hc), ink_cons_of_blank hc]
    · have hc' : isBlank c = false := by simpa using hc
      rw [if_neg hc, ink_append, hg, ink_cons_of_not_blank hc', ink_cons_of_not_blank hc',
        ih (g := .none) rfl, List.nil_append]

theorem ink_collapse (t : Text) : ink (collapse t) = ink t := ink_collapseAfter rfl t

end PagePress.Text

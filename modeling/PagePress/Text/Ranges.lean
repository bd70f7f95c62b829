import PagePress.Text.Basic

/-!
# Classes of characters as ranges

A class of characters beyond ASCII is a list of closed ranges of code points, ascending and apart.
The letters and digits of ASCII lie between the digit zero and the small letter z.
-/

set_option autoImplicit false

namespace PagePress.Text

/-- Closed ranges of code points. -/
abbrev Ranges := List (Nat × Nat)

/-- Whether a character lies in one of the ranges. -/
def inRanges (ranges : Ranges) (c : Char) : Bool :=
  ranges.any fun (first, last) => first ≤ c.toNat && c.toNat ≤ last

/-- A character lies in ranges exactly if it lies between the ends of one of them. -/
theorem inRanges_iff {ranges : Ranges} {c : Char} :
    inRanges ranges c = true ↔ ∃ r ∈ ranges, r.1 ≤ c.toNat ∧ c.toNat ≤ r.2 := by
  simp [inRanges]

theorem isAlphanum_bounds {c : Char} (h : c.isAlphanum = true) :
    0x30 ≤ c.toNat ∧ c.toNat ≤ 0x7A := by
  delta Char.isAlphanum Char.isAlpha Char.isUpper Char.isLower Char.isDigit at h
  simp only [Bool.or_eq_true, Bool.and_eq_true, decide_eq_true_eq, UInt32.le_iff_toNat_le,
    ge_iff_le] at h
  simp only [Char.toNat]
  grind

end PagePress.Text

import PagePress.Text.Basic

/-!
# Searching and replacing

All searches go from left to right.

* `Text.takeWhile_append_stop` and `Text.dropWhile_append_stop` are about a search for the first
  character that is not of a class.
* `Text.cut? p t` splits `t` around the first occurrence of `p`.
* `Text.splitOn c t` is the list of the pieces of `t` between the characters `c`.
* `Text.substitute rule t` replaces, from left to right and without overlap, each place that `rule`
  accepts.  A rule looks at the text from a place on, and answers with the replacement and the
  number of characters it stands for.
* `Text.replace old new t` replaces every occurrence of `old`.
-/

set_option autoImplicit false

namespace PagePress.Text

section Stop

variable {p : Char → Bool} {u : Text} {c : Char}

theorem takeWhile_append_stop (hu : ∀ d ∈ u, p d = true) (hc : p c = false) (v : Text) :
    (u ++ c :: v).takeWhile p = u := by
  rw [List.takeWhile_append_of_pos hu, List.takeWhile_cons_of_neg (by simp [hc]), List.append_nil]

theorem dropWhile_append_stop (hu : ∀ d ∈ u, p d = true) (hc : p c = false) (v : Text) :
    (u ++ c :: v).dropWhile p = c :: v := by
  rw [List.dropWhile_append_of_pos hu, List.dropWhile_cons_of_neg (by simp [hc])]

/-- A search for a character passes over a text without it. -/
theorem bne_of_not_mem (hu : c ∉ u) : ∀ d ∈ u, (d != c) = true :=
  fun _ hd => bne_iff_ne.2 fun h => hu (h ▸ hd)

end Stop

/-- Splits a text around the first occurrence of `p`. -/
def cut? (p : Text) : Text → Option (Text × Text)
  | [] => if p.isEmpty then some ([], []) else none
  | c :: cs =>
    match after? p (c :: cs) with
    | some rest => some ([], rest)
    | none => (cut? p cs).map fun (before, after) => (c :: before, after)

theorem cut?_eq_some {p t before rest : Text} (h : cut? p t = some (before, rest)) :
    t = before ++ p ++ rest := by
  induction t generalizing before with
  | nil =>
    rw [cut?] at h
    split at h <;> simp_all
  | cons c cs ih =>
    rw [cut?] at h
    split at h
    · rename_i r hr
      simp only [Option.some.injEq, Prod.mk.injEq] at h
      rw [← h.1, ← h.2, List.nil_append]
      exact after?_eq_some_iff.mp hr
    · simp only [Option.map_eq_some_iff, Prod.exists, Prod.mk.injEq] at h
      obtain ⟨a, b, h, rfl, rfl⟩ := h
      rw [ih h]
      rfl

theorem length_cut? {p t before rest : Text} (h : cut? p t = some (before, rest)) :
    rest.length + p.length ≤ t.length := by
  rw [cut?_eq_some h]
  simp only [List.length_append]
  omega

/-- Whether `p` occurs in the text. -/
def occursIn (p t : Text) : Bool := (cut? p t).isSome

/-- The pieces of a text between the characters `sep`; there is one more piece than there are
such characters. -/
def splitOn (sep : Char) : Text → List Text
  | [] => [[]]
  | c :: cs =>
    if c == sep then [] :: splitOn sep cs
    else
      match splitOn sep cs with
      | [] => [[c]]
      | piece :: pieces => (c :: piece) :: pieces

theorem splitOn_eq (sep : Char) (t : Text) : splitOn sep t = t.splitOnP (· == sep) := by
  induction t with
  | nil => rfl
  | cons c cs ih =>
    rw [splitOn, List.splitOnP_cons_eq_if_modifyHead, ih]
    cases c == sep with
    | true => rfl
    | false =>
      cases hpieces : cs.splitOnP (· == sep) with
      | nil => exact absurd hpieces (List.splitOnP_ne_nil _ _)
      | cons piece pieces => rfl

/-- A rule of replacement looks at the text from a place on.  Where it applies it gives the
replacement and the number of characters replaced, which is at least one. -/
abbrev Rule := Text → Option (Text × Nat)

/-- Replaces in a text of which the first `skip` characters are already replaced. -/
def substituteAfter (rule : Rule) : Nat → Text → Text
  | _, [] => []
  | skip + 1, _ :: cs => substituteAfter rule skip cs
  | 0, c :: cs =>
    match rule (c :: cs) with
    | some (new, n) => new ++ substituteAfter rule (n - 1) cs
    | none => c :: substituteAfter rule 0 cs

/-- Replaces each place that the rule accepts, from left to right and without overlap. -/
def substitute (rule : Rule) (t : Text) : Text := substituteAfter rule 0 t

/-- Replaces every occurrence of `old`, which is not empty, by `new`. -/
def replace (old new t : Text) : Text :=
  substitute (fun rest => (after? old rest).map fun _ => (new, old.length)) t

end PagePress.Text

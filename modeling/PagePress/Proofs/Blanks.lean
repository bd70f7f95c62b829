import Mathlib.Data.List.DropRight
import Mathlib.Data.List.SplitBy
import PagePress.Proofs.Ink

/-!
# Blanks, words and runs

What stripping and collapsing do to a text, said without the functions that do it.

* `Framed t lead body trail` cuts a text into the blanks at its ends and the body between them.
  `exists_framed` and `Framed.strip_eq` say that the stripped text is the body.
* `runs` cuts a text into its runs, all blank or without a blank.  `collapse_eq_flatMap_runs` says
  that collapsing writes every run of two or more blanks as one space, and keeps all else.
* `pieces` are the parts of a text between the characters of a class.
* `words` are the words of a text.  Collapsing any part of a text keeps them (`words_collapse`).
  `words_strip_append_iff` says when two texts that are stripped one by one have the words that they
  have together.
-/

set_option autoImplicit false

namespace PagePress.Text

theorem allBlank_append {t u : Text} (ht : allBlank t = true) (hu : allBlank u = true) :
    allBlank (t ++ u) = true := by
  rw [allBlank, List.all_append, Bool.and_eq_true]
  exact ⟨ht, hu⟩

theorem allBlank_of_append {t u : Text} (h : allBlank (t ++ u) = true) :
    allBlank t = true ∧ allBlank u = true := by
  rwa [allBlank, List.all_append, Bool.and_eq_true] at h

/-! ## The body of a text -/

/-- The text `t` is `body` between blanks, and `body` has no blank at its ends. -/
structure Framed (t lead body trail : Text) : Prop where
  eq : t = lead ++ body ++ trail
  /-- The blanks before the body. -/
  lead : allBlank lead = true
  /-- The blanks behind the body. -/
  trail : allBlank trail = true
  /-- The body starts with no blank. -/
  head : ∀ c ∈ body.head?, isBlank c = false
  /-- The body ends with no blank. -/
  last : ∀ c ∈ body.getLast?, isBlank c = false

theorem stripEnd_append {u v : Text} (hv : allBlank v = true) : stripEnd (u ++ v) = stripEnd u := by
  induction u with
  | nil =>
    induction v with
    | nil => rfl
    | cons c cs ih =>
      simp only [allBlank, List.all_cons, Bool.and_eq_true] at hv
      have hrest : stripEnd cs = [] := ih hv.2
      show stripEnd (c :: cs) = []
      rw [stripEnd, hrest]
      exact if_pos hv.1
  | cons c cs ih =>
    rw [List.cons_append, stripEnd, ih, stripEnd]

theorem stripEnd_concat {c : Char} (hc : isBlank c = false) (u : Text) :
    stripEnd (u ++ [c]) = u ++ [c] := by
  induction u with
  | nil => simp [stripEnd, hc]
  | cons d ds ih =>
    rw [List.cons_append, stripEnd, ih]
    split
    · simp_all
    · rfl

/-- A text that ends in no blank stops the stripping of an end. -/
theorem stripEnd_append_ink {c : Char} {v : Text} (hv : v.getLast? = some c)
    (hc : isBlank c = false) (u : Text) : stripEnd (u ++ v) = u ++ v := by
  obtain ⟨init, rfl⟩ := List.getLast?_eq_some_iff.1 hv
  rw [← List.append_assoc, stripEnd_concat hc]

/-- A character that is no blank stops the stripping of an end. -/
theorem stripEnd_cons_of_ink {x : Char} (hx : isBlank x = false) (t : Text) :
    stripEnd (x :: t) = x :: stripEnd t := by
  rw [stripEnd]
  split
  · rename_i hnil
    rw [hx, hnil]
    rfl
  · rfl

theorem stripEnd_ink_append {v : Text} (hv : v.all (!isBlank ·) = true) (t : Text) :
    stripEnd (v ++ t) = v ++ stripEnd t := by
  induction v with
  | nil => rfl
  | cons c cs ih =>
    rw [List.all_cons, Bool.and_eq_true, Bool.not_eq_true'] at hv
    rw [List.cons_append, stripEnd_cons_of_ink hv.1, ih hv.2, List.cons_append]

/-- A text that starts with no blank stops the stripping of a beginning. -/
theorem stripStart_append_cons {x : Char} (hx : isBlank x = false) (t u : Text) :
    stripStart (t ++ x :: u) = stripStart t ++ x :: u := by
  rw [stripStart, List.dropWhile_append, List.dropWhile_cons_of_neg (by simp [hx])]
  split
  · rename_i hnil
    rw [stripStart, List.isEmpty_iff.1 hnil]
    rfl
  · rfl

theorem stripEnd_eq_rdropWhile (t : Text) : stripEnd t = t.rdropWhile isBlank := by
  induction t using List.reverseRecOn with
  | nil => rfl
  | append_singleton u c ih =>
    by_cases hc : isBlank c = true
    · rw [stripEnd_append (by simpa [allBlank] using hc), ih, List.rdropWhile_concat_pos _ _ _ hc]
    · rw [stripEnd_concat (by simpa using hc), List.rdropWhile_concat_neg _ _ _ hc]

/-- A text is what is left when its end is stripped, and blanks. -/
theorem exists_stripEnd (t : Text) : ∃ trail, allBlank trail = true ∧ t = stripEnd t ++ trail := by
  refine ⟨t.rtakeWhile isBlank, ?_, ?_⟩
  · rw [allBlank, List.all_eq_true]
    exact fun c hc => List.mem_rtakeWhile_imp hc
  · rw [stripEnd_eq_rdropWhile, List.rdropWhile_append_rtakeWhile]

/-- A text is blanks, and what is left when its beginning is stripped. -/
theorem exists_stripStart (t : Text) : ∃ lead, allBlank lead = true ∧ t = lead ++ stripStart t := by
  refine ⟨t.takeWhile isBlank, ?_, ?_⟩
  · rw [allBlank, List.all_eq_true]
    exact fun c hc => List.mem_takeWhile_imp hc
  · rw [stripStart, List.takeWhile_append_dropWhile]

/-- Blanks before a text are stripped with its own. -/
theorem stripStart_blank_append {w : Text} (hw : allBlank w = true) (t : Text) :
    stripStart (w ++ t) = stripStart t :=
  List.dropWhile_append_of_pos (List.all_eq_true.1 hw)

/-- A text is what is left of it when the characters of a class are taken off its ends, between
characters of that class. -/
theorem exists_trimmed (p : Char → Bool) (t : Text) :
    ∃ lead trail, t = lead ++ (t.dropWhile p).rdropWhile p ++ trail ∧
      (∀ c ∈ lead, p c = true) ∧ (∀ c ∈ trail, p c = true) ∧
      (∀ c ∈ ((t.dropWhile p).rdropWhile p).head?, p c = false) ∧
      ∀ c ∈ ((t.dropWhile p).rdropWhile p).getLast?, p c = false := by
  have hbody : (t.dropWhile p).rdropWhile p ++ (t.dropWhile p).rtakeWhile p = t.dropWhile p :=
    List.rdropWhile_append_rtakeWhile
  refine ⟨t.takeWhile p, (t.dropWhile p).rtakeWhile p, ?_, fun c hc => List.mem_takeWhile_imp hc,
    fun c hc => List.mem_rtakeWhile_imp hc, ?_, ?_⟩
  · rw [List.append_assoc, hbody, List.takeWhile_append_dropWhile]
  · intro c hc
    have hhead : (t.dropWhile p).head? = some c := by
      rw [← hbody, List.head?_append, Option.mem_def.1 hc]
      rfl
    have hnot := List.head?_dropWhile_not p t
    rwa [hhead] at hnot
  · intro c hc
    have hne : (t.dropWhile p).rdropWhile p ≠ [] :=
      List.ne_nil_of_mem (List.mem_of_mem_getLast? hc)
    have hnot := List.rdropWhile_last_not p _ hne
    rw [List.getLast_of_mem_getLast? hc] at hnot
    simpa using hnot

/-- What is left between characters of a class, if it has none at its ends. -/
theorem trimmed_eq {p : Char → Bool} {lead body trail : Text} (hlead : ∀ c ∈ lead, p c = true)
    (htrail : ∀ c ∈ trail, p c = true) (hhead : ∀ c ∈ body.head?, p c = false)
    (hlast : ∀ c ∈ body.getLast?, p c = false) :
    ((lead ++ body ++ trail).dropWhile p).rdropWhile p = body := by
  rw [List.append_assoc, List.dropWhile_append_of_pos hlead]
  rcases List.eq_nil_or_concat body with rfl | ⟨init, c, rfl⟩
  · rw [List.nil_append, List.dropWhile_eq_nil_iff.2 htrail]
    rfl
  · have hkeep : (init.concat c ++ trail).dropWhile p = init.concat c ++ trail := by
      cases init with
      | nil => simp [hlast c (by simp)]
      | cons d ds => simp [hhead d (by simp)]
    have hend : ∀ d ∈ trail.reverse, p d = true := fun d hd => htrail d (List.mem_reverse.1 hd)
    rw [hkeep, List.rdropWhile, List.reverse_append, List.dropWhile_append_of_pos hend]
    simp [hlast c (by simp)]

theorem strip_eq_trimmed (t : Text) : strip t = (t.dropWhile isBlank).rdropWhile isBlank :=
  stripEnd_eq_rdropWhile _

theorem exists_framed (t : Text) : ∃ lead trail, Framed t lead (strip t) trail := by
  obtain ⟨lead, trail, heq, hlead, htrail, hhead, hlast⟩ := exists_trimmed isBlank t
  rw [strip_eq_trimmed]
  exact ⟨lead, trail, heq, List.all_eq_true.2 hlead, List.all_eq_true.2 htrail, hhead, hlast⟩

theorem Framed.strip_eq {t lead body trail : Text} (h : Framed t lead body trail) :
    strip t = body := by
  rw [strip_eq_trimmed, h.eq]
  exact trimmed_eq (List.all_eq_true.1 h.lead) (List.all_eq_true.1 h.trail) h.head h.last

theorem strip_eq_nil_iff {t : Text} : strip t = [] ↔ allBlank t = true := by
  constructor
  · intro hnil
    obtain ⟨lead, trail, h⟩ := exists_framed t
    rw [h.eq, hnil, List.append_nil]
    exact allBlank_append h.lead h.trail
  · intro hblank
    have h : Framed t t [] [] := ⟨by simp, hblank, rfl, by simp, by simp⟩
    exact h.strip_eq

theorem strip_eq_self_iff {t : Text} :
    strip t = t ↔ (∀ c ∈ t.head?, isBlank c = false) ∧ ∀ c ∈ t.getLast?, isBlank c = false := by
  constructor
  · intro h
    obtain ⟨lead, trail, hframed⟩ := exists_framed t
    rw [h] at hframed
    exact ⟨hframed.head, hframed.last⟩
  · rintro ⟨hhead, hlast⟩
    have h : Framed t [] t [] := ⟨by simp, rfl, rfl, hhead, hlast⟩
    exact h.strip_eq

theorem strip_strip (t : Text) : strip (strip t) = strip t := by
  obtain ⟨lead, trail, h⟩ := exists_framed t
  exact strip_eq_self_iff.2 ⟨h.head, h.last⟩

/-- The two ends of a text are stripped in any order. -/
theorem stripStart_stripEnd (t : Text) : stripStart (stripEnd t) = strip t := by
  induction t with
  | nil => rfl
  | cons c cs ih =>
    by_cases hc : isBlank c = true
    · have hcons : ∀ u : Text, stripStart (c :: u) = stripStart u :=
        fun u => List.dropWhile_cons_of_pos hc
      rw [strip, hcons, ← strip, ← ih, stripEnd]
      split
      · rename_i hnil
        rw [hnil, if_pos hc]
      · exact hcons _
    · have hink : isBlank c = false := by simpa using hc
      have hcons : ∀ u : Text, stripStart (c :: u) = c :: u :=
        fun u => List.dropWhile_cons_of_neg hc
      rw [strip, hcons, stripEnd_cons_of_ink hink, hcons]

theorem strip_blank_append {w : Text} (hw : allBlank w = true) (t : Text) :
    strip (w ++ t) = strip t := by
  rw [strip, stripStart_blank_append hw, strip]

theorem strip_append_blank {w : Text} (hw : allBlank w = true) (t : Text) :
    strip (t ++ w) = strip t := by
  rw [← stripStart_stripEnd, stripEnd_append hw, stripStart_stripEnd]

/-! ## Runs -/

/-- The runs of a text: its longest pieces that are all blank or have no blank. -/
def runs (t : Text) : List Text := t.splitBy fun c d => isBlank c == isBlank d

/-- A run as it is written: two or more blanks as one space, any other run as it is. -/
def spaced (run : Text) : Text := if allBlank run && 2 ≤ run.length then [' '] else run

/-- A run without a blank is kept. -/
theorem collapse_append_ink {run : Text} (hrun : ∀ c ∈ run, isBlank c = false) (t : Text) :
    collapse (run ++ t) = run ++ collapse t := by
  induction run with
  | nil => rfl
  | cons c cs ih =>
    have hc : isBlank c = false := hrun c List.mem_cons_self
    rw [List.cons_append, collapse, collapseAfter, hc]
    exact congrArg (c :: ·) (ih fun d hd => hrun d (List.mem_cons_of_mem _ hd))

/-- What follows blanks is collapsed for itself if it starts with no blank. -/
theorem collapseAfter_eq (g : Gap) {t : Text} (ht : ∀ c ∈ t.head?, isBlank c = false) :
    collapseAfter g t = g.text ++ collapse t := by
  cases t with
  | nil => simp [collapse, collapseAfter, Gap.text]
  | cons c cs =>
    have hc : isBlank c = false := ht c rfl
    simp [collapse, collapseAfter, hc, Gap.text]

/-- More blanks after a wide gap leave it wide. -/
theorem collapseAfter_wide {run : Text} (hrun : ∀ c ∈ run, isBlank c = true) {t : Text}
    (ht : ∀ c ∈ t.head?, isBlank c = false) :
    collapseAfter .wide (run ++ t) = ' ' :: collapse t := by
  induction run with
  | nil => exact collapseAfter_eq .wide ht
  | cons c cs ih =>
    rw [List.cons_append, collapseAfter, hrun c List.mem_cons_self]
    exact ih fun d hd => hrun d (List.mem_cons_of_mem _ hd)

/-- A run of blanks is written as one space if there are two or more of them. -/
theorem collapse_append_blank {run : Text} (hrun : ∀ c ∈ run, isBlank c = true) {t : Text}
    (ht : ∀ c ∈ t.head?, isBlank c = false) :
    collapse (run ++ t) = spaced run ++ collapse t := by
  have hall : allBlank run = true := List.all_eq_true.2 hrun
  rcases run with _ | ⟨c, _ | ⟨d, rest⟩⟩
  · rfl
  · have hone : spaced [c] = [c] := by simp [spaced]
    rw [hone, List.cons_append, collapse, collapseAfter, hrun c List.mem_cons_self]
    exact collapseAfter_eq (.single c) ht
  · have hrest : ∀ x ∈ rest, isBlank x = true := fun x hx => hrun x (by simp [hx])
    rw [List.cons_append, List.cons_append, collapse, collapseAfter, hrun c (by simp), if_pos rfl,
      collapseAfter, hrun d (by simp), if_pos rfl, spaced, hall]
    exact collapseAfter_wide hrest ht

/-- The characters of a run are all blank or none is. -/
theorem isBlank_eq_of_isChain {c : Char} {cs : Text}
    (h : (c :: cs).IsChain fun c d => (isBlank c == isBlank d) = true) :
    ∀ d ∈ c :: cs, isBlank d = isBlank c := by
  induction cs generalizing c with
  | nil => simp
  | cons e es ih =>
    rw [List.isChain_cons_cons] at h
    have hce : isBlank c = isBlank e := by simpa using h.1
    intro d hd
    rcases List.mem_cons.1 hd with rfl | hd
    · rfl
    · rw [ih h.2 d hd, hce]

/-- Runs that alternate are collapsed one by one. -/
theorem collapse_flatten {rs : List Text} (hne : [] ∉ rs)
    (hpure : ∀ run ∈ rs, run.IsChain fun c d => (isBlank c == isBlank d) = true)
    (halternate : rs.IsChain fun a b => ∃ ha hb,
      (isBlank (a.getLast ha) == isBlank (b.head hb)) = false) :
    collapse rs.flatten = rs.flatMap spaced := by
  induction rs with
  | nil => rfl
  | cons run rest ih =>
    rw [List.flatten_cons, List.flatMap_cons,
      ← ih (fun h => hne (List.mem_cons_of_mem _ h))
        (fun r hr => hpure r (List.mem_cons_of_mem _ hr)) halternate.tail]
    cases run with
    | nil => exact absurd List.mem_cons_self hne
    | cons c cs =>
      have hsame := isBlank_eq_of_isChain (hpure _ List.mem_cons_self)
      by_cases hc : isBlank c = true
      · refine collapse_append_blank (fun d hd => (hsame d hd).trans hc) fun d hd => ?_
        -- the next run is of the other kind
        cases rest with
        | nil => cases hd
        | cons next more =>
          rw [List.isChain_cons_cons] at halternate
          obtain ⟨⟨hlast, hhead, hdiff⟩, -⟩ := halternate
          have hd' : next.head hhead = d := by
            rw [List.flatten_cons, List.head?_append, List.head?_eq_some_head hhead] at hd
            simpa using hd
          rw [hd', hsame _ (List.getLast_mem hlast), hc] at hdiff
          simpa using hdiff
      · have hink : ∀ d ∈ c :: cs, isBlank d = false :=
          fun d hd => (hsame d hd).trans (by simpa using hc)
        have hkeep : spaced (c :: cs) = c :: cs := by
          simp [spaced, allBlank, hink c List.mem_cons_self]
        rw [collapse_append_ink hink, hkeep]

/-- **Collapsing, run by run.**  Every run of two or more blanks is written as one space, and any
other run is kept. -/
theorem collapse_eq_flatMap_runs (t : Text) : collapse t = (runs t).flatMap spaced := by
  obtain ⟨hflat, hne, hpure, halternate⟩ := List.splitBy_eq_iff.1 (rfl : runs t = runs t)
  rw [hflat]
  conv_rhs => rw [← hflat]
  exact collapse_flatten hne hpure halternate

/-! ## Words -/

/-- The pieces of a text: its longest parts without a character of the class `p`. -/
def pieces (p : Char → Bool) (t : Text) : List Text := (t.splitOnP p).filter (!·.isEmpty)

section Pieces

variable {p : Char → Bool} {c d : Char}

/-- **Pieces end at a character of the class.** -/
theorem pieces_append_cons (hc : p c = true) (x y : Text) :
    pieces p (x ++ c :: y) = pieces p x ++ pieces p y := by
  rw [pieces, List.splitOnP_append_cons x y hc, List.filter_append, pieces, pieces]

theorem pieces_cons_pos (hc : p c = true) (t : Text) : pieces p (c :: t) = pieces p t :=
  pieces_append_cons hc [] t

/-- A character that is not of the class makes one piece more, unless it stands before another
such. -/
theorem length_pieces_cons (hc : p c = false) (t : Text) :
    (pieces p (c :: t)).length = (pieces p t).length + if t.head?.any (!p ·) then 0 else 1 := by
  have hone : pieces p [c] = [[c]] := by
    simp [pieces, List.splitOnP_cons_eq_if_modifyHead, hc]
  cases t with
  | nil => rw [hone]; rfl
  | cons d ds =>
    by_cases hd : p d = true
    · rw [← List.singleton_append, pieces_append_cons hd, pieces_cons_pos hd, hone]
      simp [hd, Nat.add_comm]
    · obtain ⟨w, ws, hsplit⟩ := List.exists_cons_of_ne_nil (List.splitOnP_ne_nil p ds)
      simp [pieces, List.splitOnP_cons_eq_if_modifyHead, hc, hd, hsplit]

/-- Two texts have one piece less together if no character of the class stands between them. -/
theorem length_pieces_append (hc : p c = false) (hd : p d = false) (init y : Text) :
    (pieces p (init ++ [c] ++ d :: y)).length + 1
      = (pieces p (init ++ [c])).length + (pieces p (d :: y)).length := by
  induction init with
  | nil =>
    show (pieces p (c :: d :: y)).length + 1 = (pieces p [c]).length + _
    rw [length_pieces_cons hc (d :: y), length_pieces_cons hc []]
    simp [pieces, hd, Nat.add_comm]
  | cons a init ih =>
    rw [List.cons_append, List.cons_append]
    by_cases ha : p a = true
    · rw [pieces_cons_pos ha, pieces_cons_pos ha, ih]
    · have hhead : (init ++ [c] ++ d :: y).head? = (init ++ [c]).head? := by
        cases init <;> rfl
      have ha' : p a = false := by simpa using ha
      rw [length_pieces_cons ha', length_pieces_cons ha', hhead]
      omega

/-- What stands between the characters of a class has none of them.  The induction is on the text
behind `u`, which has none of them either. -/
theorem not_of_mem_splitOnP {u t w : Text} (hu : ∀ c ∈ u, p c = false)
    (hw : w ∈ (u ++ t).splitOnP p) : ∀ c ∈ w, p c = false := by
  induction t generalizing u with
  | nil =>
    rw [List.append_nil, List.splitOnP_eq_singleton hu, List.mem_singleton] at hw
    rwa [hw]
  | cons c cs ih =>
    by_cases hc : p c = true
    · rw [List.splitOnP_append_cons u cs hc, List.splitOnP_eq_singleton hu, List.singleton_append,
        List.mem_cons] at hw
      rcases hw with rfl | hw
      · exact hu
      · exact ih (u := []) (by simp) hw
    · rw [List.append_cons u c cs] at hw
      refine ih (List.forall_mem_append.2 ⟨hu, ?_⟩) hw
      simpa using hc

theorem mem_pieces {t w : Text} (hw : w ∈ pieces p t) : w ≠ [] ∧ ∀ c ∈ w, p c = false := by
  obtain ⟨hsplit, hne⟩ := List.mem_filter.1 hw
  exact ⟨by simpa using hne, not_of_mem_splitOnP (u := []) (by simp) hsplit⟩

end Pieces

/-- The words of a text: its longest pieces without a blank. -/
def words (t : Text) : List Text := pieces isBlank t

theorem words_eq_pieces (t : Text) : words t = pieces isBlank t := rfl

/-- **Words end at a blank.** -/
theorem words_append_cons {c : Char} (hc : isBlank c = true) (x y : Text) :
    words (x ++ c :: y) = words x ++ words y := pieces_append_cons hc x y

theorem words_cons_blank {c : Char} (hc : isBlank c = true) (t : Text) :
    words (c :: t) = words t := words_append_cons hc [] t

/-- Blanks between two texts keep their words apart. -/
theorem words_append_gap {gap : Text} (hne : gap ≠ []) (hgap : allBlank gap = true) (x y : Text) :
    words (x ++ gap ++ y) = words x ++ words y := by
  induction gap generalizing x with
  | nil => exact absurd rfl hne
  | cons c cs ih =>
    simp only [allBlank, List.all_cons, Bool.and_eq_true] at hgap
    rw [List.append_assoc, List.cons_append, words_append_cons hgap.1]
    cases cs with
    | nil => rfl
    | cons d ds => exact congrArg _ (ih (by simp) hgap.2 [])

theorem allBlank_gap_add {g : Gap} (hg : allBlank g.text = true) {c : Char}
    (hc : isBlank c = true) : allBlank (g.add c).text = true :=
  ink_eq_nil_iff.1 (ink_gap_add (ink_eq_nil_iff.2 hg) hc)

/-- A gap parts words as the blanks do that it stands for. -/
theorem words_gap_add {g : Gap} (hg : allBlank g.text = true) {c : Char} (hc : isBlank c = true)
    (x y : Text) : words (x ++ (g.add c).text ++ y) = words (x ++ g.text ++ c :: y) := by
  have hne : (g.add c).text ≠ [] := by cases g <;> simp [Gap.add, Gap.text]
  have hall : allBlank (g.text ++ [c]) = true := allBlank_append hg (by simp [allBlank, hc])
  rw [words_append_gap hne (allBlank_gap_add hg hc), ← words_append_gap (by simp) hall]
  simp

theorem words_collapseAfter {g : Gap} (hg : allBlank g.text = true) (x t y : Text) :
    words (x ++ collapseAfter g t ++ y) = words (x ++ g.text ++ t ++ y) := by
  induction t generalizing g x with
  | nil => rw [collapseAfter, List.append_nil]
  | cons c cs ih =>
    rw [collapseAfter]
    by_cases hc : isBlank c = true
    · rw [if_pos hc, ih (allBlank_gap_add hg hc), List.append_assoc _ cs y, words_gap_add hg hc]
      simp
    · rw [if_neg hc]
      have h := ih (g := .none) rfl (x ++ g.text ++ [c])
      simpa [Gap.text] using h

/-- **Collapsing a part of a text keeps its words.** -/
theorem words_collapse (x t y : Text) : words (x ++ collapse t ++ y) = words (x ++ t ++ y) := by
  have h := words_collapseAfter (g := .none) rfl x t y
  simpa [Gap.text, collapse] using h

/-! ## Stripping one by one -/

section Framed

variable {t lead body gap : Text}

/-- A text with a body ends with no blank exactly if none stands behind the body. -/
theorem Framed.trail_eq_nil_iff (h : Framed t lead body gap) (hne : body ≠ []) :
    (∀ c ∈ t.getLast?, isBlank c = false) ↔ gap = [] := by
  rw [h.eq]
  rcases List.eq_nil_or_concat gap with rfl | ⟨init, d, rfl⟩
  · rw [List.append_nil, List.getLast?_append_of_ne_nil _ hne]
    exact ⟨fun _ => rfl, fun _ => h.last⟩
  · have hd : isBlank d = true := List.all_eq_true.1 h.trail d (by simp)
    simp [hd]

/-- A text with a body starts with no blank exactly if none stands before the body. -/
theorem Framed.lead_eq_nil_iff (h : Framed t lead body gap) (hne : body ≠ []) :
    (∀ c ∈ t.head?, isBlank c = false) ↔ lead = [] := by
  rw [h.eq]
  cases lead with
  | nil =>
    rw [List.nil_append, List.head?_append_of_ne_nil _ hne]
    exact ⟨fun _ => rfl, fun _ => h.head⟩
  | cons d ds =>
    have hd : isBlank d = true := List.all_eq_true.1 h.lead d (by simp)
    simp [hd]

variable {u body' gap' trail : Text}

/-- The body of two texts with a body holds the blanks between them. -/
theorem Framed.append (ht : Framed t lead body gap) (hu : Framed u gap' body' trail)
    (hne : body ≠ []) (hne' : body' ≠ []) :
    Framed (t ++ u) lead (body ++ (gap ++ gap') ++ body') trail where
  eq := by rw [ht.eq, hu.eq]; simp
  lead := ht.lead
  trail := hu.trail
  head := by
    rw [List.append_assoc, List.head?_append_of_ne_nil _ hne]
    exact ht.head
  last := by
    rw [List.getLast?_append_of_ne_nil _ hne']
    exact hu.last

/-- Blanks between two bodies part a word. -/
theorem words_bodies_iff (x : Text) (ht : Framed t lead body gap) (hu : Framed u gap' body' trail)
    (hne : body ≠ []) (hne' : body' ≠ []) :
    words (x ++ body ++ body') = words (x ++ (body ++ (gap ++ gap') ++ body')) ↔
      gap ++ gap' = [] := by
  have hgap : allBlank (gap ++ gap') = true := allBlank_append ht.trail hu.lead
  constructor
  · intro hwords
    by_contra hgapne
    obtain ⟨init, c, rfl⟩ := (List.eq_nil_or_concat body).resolve_left hne
    obtain ⟨d, rest, rfl⟩ := List.exists_cons_of_ne_nil hne'
    have hapart := words_append_gap hgapne hgap (x ++ init.concat c) (d :: rest)
    have hjoin := length_pieces_append (ht.last c (by simp)) (hu.head d rfl) (x ++ init) rest
    rw [← List.append_assoc, ← List.append_assoc, hapart] at hwords
    have hlength := congrArg List.length hwords
    simp only [words_eq_pieces, List.concat_eq_append, ← List.append_assoc,
      List.length_append] at hlength
    omega
  · intro hnil
    rw [hnil, List.append_nil, List.append_assoc]

end Framed

/-- **When stripping one by one keeps the words.**  Two texts that are stripped one by one have,
behind any text, the words that they have if they are stripped together, exactly if one of them is
blank or no blank stands where they meet. -/
theorem words_strip_append_iff (x t u : Text) :
    words (x ++ strip t ++ strip u) = words (x ++ strip (t ++ u)) ↔
      allBlank t = true ∨ allBlank u = true ∨
        (∀ c ∈ t.getLast?, isBlank c = false) ∧ ∀ c ∈ u.head?, isBlank c = false := by
  obtain ⟨lead, gap, ht⟩ := exists_framed t
  obtain ⟨gap', trail, hu⟩ := exists_framed u
  by_cases hblank : allBlank t = true
  · have htogether : Framed (t ++ u) (t ++ gap') (strip u) trail :=
      ⟨by rw [List.append_assoc t, List.append_assoc t, ← hu.eq],
        allBlank_append hblank hu.lead, hu.trail, hu.head, hu.last⟩
    rw [htogether.strip_eq, strip_eq_nil_iff.2 hblank, List.append_nil]
    exact iff_of_true rfl (.inl hblank)
  by_cases hblank' : allBlank u = true
  · have htogether : Framed (t ++ u) lead (strip t) (gap ++ u) :=
      ⟨by rw [← List.append_assoc, ← ht.eq], ht.lead, allBlank_append ht.trail hblank',
        ht.head, ht.last⟩
    rw [htogether.strip_eq, strip_eq_nil_iff.2 hblank', List.append_nil]
    exact iff_of_true rfl (.inr (.inl hblank'))
  · have hne : strip t ≠ [] := fun h => hblank (strip_eq_nil_iff.1 h)
    have hne' : strip u ≠ [] := fun h => hblank' (strip_eq_nil_iff.1 h)
    rw [(ht.append hu hne hne').strip_eq, words_bodies_iff x ht hu hne hne',
      ht.trail_eq_nil_iff hne, hu.lead_eq_nil_iff hne', List.append_eq_nil_iff]
    simp [hblank, hblank']

end PagePress.Text

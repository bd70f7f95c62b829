import Mathlib.Order.Nat
import PagePress.Proofs.Blanks
import PagePress.Text.Search
import PagePress.Wrapper

/-!
# Taking wrappers off

Raw text is unwrapped by four searches, two at its beginning and two at its end.  The body between
the marks is any text: it may hold marks of its own, or end in pieces that make a longer mark of the
one that follows.  This file says what the searches find, and then what is left of a body.

* `IsCommentEnd` are the closing comment marks, with the blanks and slashes that belong to them.
  `ClosedBy kind t u m` says that `t` is `u` and such a mark, and that none begins earlier.
  `dropCommentEnd_cases` says that this mark is what is dropped.
* `IsSectionEnd` are the closing section marks.  They cannot overlap
  (`IsSectionEnd.eq_nil_of_append`), so that `dropSectionEnd_append` needs nothing of the body.
* `remove_wrapped` says that unwrapping undoes wrapping, and that nothing else is touched.
* `removeComments_line_iff` is about the line of an opening mark in a script.  Only the mark and a
  line feed right behind it are dropped, so that the rest of the line is left.
-/

set_option autoImplicit false

namespace PagePress.Wrapper

open Text

/-! ## Closing comment marks -/

/-- A closing comment mark with blanks around it.  In a script, slashes before it and the blanks
before them belong to it. -/
inductive IsCommentEnd : RawKind → Text → Prop
  | plain {kind : RawKind} {gap trail : Text} (hgap : allBlank gap = true)
      (htrail : allBlank trail = true) : IsCommentEnd kind (gap ++ ("-->" ++ trail))
  | slashed {lead gap trail : Text} (hlead : allBlank lead = true) (hgap : allBlank gap = true)
      (htrail : allBlank trail = true) :
      IsCommentEnd .script (lead ++ ("//" ++ (gap ++ ("-->" ++ trail))))

/-- The text `t` is `u` and the closing mark `m`, and no closing mark begins earlier. -/
structure ClosedBy (kind : RawKind) (t u m : Text) : Prop where
  eq : t = u ++ m
  mark : IsCommentEnd kind m
  /-- No closing mark begins inside of `u`. -/
  first : ∀ u' m', t = u' ++ m' → IsCommentEnd kind m' → u.length ≤ u'.length

/-- The final line feed of a text, which is left when a closing mark is dropped. -/
def finalLine (t : Text) : Text := if t.getLast? == some '\n' then ['\n'] else []

variable {kind : RawKind} {t u m b : Text}

theorem finalLine_append (t : Text) (hne : u ≠ []) : finalLine (t ++ u) = finalLine u := by
  rw [finalLine, List.getLast?_append_of_ne_nil _ hne, finalLine]

theorem length_finalLine_le (hne : t ≠ []) : (finalLine t).length ≤ t.length := by
  have hpos : 0 < t.length := List.length_pos_iff.2 hne
  rw [finalLine]
  split
  · exact hpos
  · exact Nat.zero_le _

theorem allBlank_finalLine (t : Text) : allBlank (finalLine t) = true := by
  rw [finalLine]
  split
  · decide
  · rfl

namespace IsCommentEnd

theorem not_allBlank (h : IsCommentEnd kind m) : allBlank m = false := by
  have hdash : isBlank '-' = false := by decide
  cases h with
  | plain hgap htrail => simp [allBlank, hdash]
  | slashed hlead hgap htrail => simp [allBlank, hdash]

theorem ne_nil (h : IsCommentEnd kind m) : m ≠ [] := by
  rintro rfl
  exact absurd h.not_allBlank (by decide)

theorem infix_mark (h : IsCommentEnd kind m) : "-->".toList <:+: m := by
  cases h with
  | @plain _ gap trail => exact ⟨gap, trail, List.append_assoc _ _ _⟩
  | @slashed lead gap trail => exact ⟨lead ++ "//" ++ gap, trail, by simp⟩

/-- Blanks before a closing mark belong to it. -/
theorem blank_append {w : Text} (hw : allBlank w = true) (h : IsCommentEnd kind m) :
    IsCommentEnd kind (w ++ m) := by
  cases h with
  | plain hgap htrail =>
    rw [← List.append_assoc]
    exact .plain (allBlank_append hw hgap) htrail
  | slashed hlead hgap htrail =>
    rw [← List.append_assoc]
    exact .slashed (allBlank_append hw hlead) hgap htrail

end IsCommentEnd

/-- A text without slashes at its end, and without the blanks before them, where slashes belong to a
closing mark. -/
def slashless : RawKind → Text → Text
  | .script, t =>
    match before? "//" t with
    | some before => stripEnd before
    | none => t
  | .style, t => t

/-- What is left of a text that ends in a mark and blanks. -/
theorem dropCommentEnd_eq {before trail : Text} (kind : RawKind)
    (ht : t = before ++ ("-->" ++ trail)) (htrail : allBlank trail = true) :
    dropCommentEnd kind t = slashless kind (stripEnd before) ++ finalLine t := by
  have hstrip : stripEnd t = before ++ "-->" := by
    rw [ht, ← List.append_assoc, stripEnd_append htrail]
    exact stripEnd_append_ink rfl (by decide) before
  have hbefore : before? "-->" (stripEnd t) = some before := before?_eq_some_iff.2 hstrip
  have hline : ∀ body : Text,
      (if t.getLast? == some '\n' then body ++ ['\n'] else body) = body ++ finalLine t := by
    intro body
    rw [finalLine]
    split <;> simp
  rw [dropCommentEnd, hbefore]
  dsimp only
  rw [hline]
  cases kind with
  | script =>
    rw [slashless]
    cases before? "//" (stripEnd before) <;> rfl
  | style => rfl

/-- A text that does not end in a closing mark is left as it is. -/
theorem dropCommentEnd_eq_self (h : ∀ u m, t = u ++ m → ¬ IsCommentEnd kind m) :
    dropCommentEnd kind t = t := by
  have hnone : before? "-->" (stripEnd t) = none := by
    rw [Option.eq_none_iff_forall_ne_some]
    intro before hbefore
    obtain ⟨trail, htrail, ht⟩ := exists_stripEnd t
    rw [before?_eq_some_iff.1 hbefore, List.append_assoc] at ht
    exact h before _ ht (@IsCommentEnd.plain kind [] trail rfl htrail)
  rw [dropCommentEnd, hnone]

namespace ClosedBy

/-- The text before the first closing mark ends in no blank. -/
theorem stripEnd_eq (h : ClosedBy kind t u m) : stripEnd u = u := by
  obtain ⟨trail, htrail, hu⟩ := exists_stripEnd u
  have hsplit : t = stripEnd u ++ (trail ++ m) := by
    rw [← List.append_assoc, ← hu, h.eq]
  have hle := h.first _ _ hsplit (h.mark.blank_append htrail)
  have hlength := congrArg List.length hu
  rw [List.length_append] at hlength
  have hnil : trail = [] := List.length_eq_zero_iff.1 (by omega)
  rw [hnil, List.append_nil] at hu
  exact hu.symm

/-- **The first closing mark is dropped**, a final line feed excepted. -/
theorem dropCommentEnd_eq (h : ClosedBy kind t u m) :
    dropCommentEnd kind t = u ++ finalLine t := by
  have hstrip := h.stripEnd_eq
  obtain ⟨heq, hmark, hfirst⟩ := h
  cases hmark with
  | @plain _ gap trail hgap htrail =>
    have hsplit : t = (u ++ gap) ++ ("-->" ++ trail) := by rw [heq, List.append_assoc]
    rw [Wrapper.dropCommentEnd_eq kind hsplit htrail, stripEnd_append hgap, hstrip]
    cases kind with
    | style => rfl
    | script =>
      cases hslashes : before? "//" u with
      | none => rw [slashless, hslashes]
      | some before =>
        -- slashes before the mark would make it begin earlier
        have hu : u = before ++ "//" := before?_eq_some_iff.1 hslashes
        have hle := hfirst before ("//" ++ (gap ++ ("-->" ++ trail)))
          (by rw [heq, hu, List.append_assoc]) (@IsCommentEnd.slashed [] gap trail rfl hgap htrail)
        rw [hu, List.length_append] at hle
        exact absurd hle (by simp)
  | @slashed lead gap trail hlead hgap htrail =>
    have hsplit : t = (u ++ lead ++ "//" ++ gap) ++ ("-->" ++ trail) := by
      rw [heq]
      simp only [List.append_assoc]
    have hslashes : stripEnd (u ++ lead ++ "//") = u ++ lead ++ "//" :=
      stripEnd_append_ink rfl (by decide) _
    have hbefore : before? "//" (u ++ lead ++ "//") = some (u ++ lead) :=
      before?_eq_some_iff.2 rfl
    rw [Wrapper.dropCommentEnd_eq .script hsplit htrail, stripEnd_append hgap, hslashes, slashless,
      hbefore]
    dsimp only
    rw [stripEnd_append hlead, hstrip]

end ClosedBy

theorem exists_closedBy (ht : t = u ++ m) (hm : IsCommentEnd kind m) :
    ∃ u m, ClosedBy kind t u m := by
  classical
  have hex : ∃ n, ∃ u m : Text, u.length = n ∧ t = u ++ m ∧ IsCommentEnd kind m :=
    ⟨_, u, m, rfl, ht, hm⟩
  obtain ⟨u, m, hlength, ht, hm⟩ := Nat.find_spec hex
  refine ⟨u, m, ht, hm, fun u' m' ht' hm' => ?_⟩
  rw [hlength]
  exact Nat.find_min' hex ⟨u', m', rfl, ht', hm'⟩

/-- **What is dropped at the end of a text**: the first closing mark, if there is one. -/
theorem dropCommentEnd_cases (kind : RawKind) (t : Text) :
    (∀ u m, t = u ++ m → ¬ IsCommentEnd kind m) ∧ dropCommentEnd kind t = t ∨
      ∃ u m, ClosedBy kind t u m ∧ dropCommentEnd kind t = u ++ finalLine t := by
  by_cases hex : ∃ u m, t = u ++ m ∧ IsCommentEnd kind m
  · obtain ⟨u, m, ht, hm⟩ := hex
    obtain ⟨u, m, h⟩ := exists_closedBy ht hm
    exact .inr ⟨u, m, h, h.dropCommentEnd_eq⟩
  · have hno : ∀ u m, t = u ++ m → ¬ IsCommentEnd kind m := fun u m ht hm => hex ⟨u, m, ht, hm⟩
    exact .inl ⟨hno, dropCommentEnd_eq_self hno⟩

theorem length_dropCommentEnd_le (kind : RawKind) (t : Text) :
    (dropCommentEnd kind t).length ≤ t.length := by
  obtain ⟨-, hsame⟩ | ⟨u, m, h, hdrop⟩ := dropCommentEnd_cases kind t
  · rw [hsame]
  · have hle := length_finalLine_le h.mark.ne_nil
    rw [hdrop, h.eq, finalLine_append u h.mark.ne_nil, List.length_append, List.length_append]
    omega

theorem dropCommentEnd_of_allBlank (kind : RawKind) (h : allBlank t = true) :
    dropCommentEnd kind t = t := by
  refine dropCommentEnd_eq_self fun u m ht hm => ?_
  rw [ht] at h
  exact Bool.false_ne_true (hm.not_allBlank.symm.trans (allBlank_of_append h).2)

theorem dropCommentEnd_of_not_infix (kind : RawKind) (h : ¬ "-->".toList <:+: t) :
    dropCommentEnd kind t = t := by
  refine dropCommentEnd_eq_self fun u m ht hm => h ?_
  rw [ht]
  exact hm.infix_mark.trans (List.suffix_append u m).isInfix

/-- Of a closing mark nothing is left but a final line feed. -/
theorem IsCommentEnd.dropCommentEnd_eq (h : IsCommentEnd kind m) :
    dropCommentEnd kind m = finalLine m :=
  ClosedBy.dropCommentEnd_eq (u := []) ⟨rfl, h, fun _ _ _ _ => Nat.zero_le _⟩

/-! ## The line of an opening mark -/

/-- A character of two texts stands in the first or in the second. -/
theorem append_cons_cases {c : Char} {x y v w : Text} (h : x ++ c :: y = v ++ w) :
    (∃ v', v = x ++ c :: v' ∧ y = v' ++ w) ∨ ∃ x', w = x' ++ c :: y := by
  rcases List.append_eq_append_iff.1 h with ⟨v', hv, hy⟩ | ⟨x', -, hw⟩
  · cases v' with
    | nil => exact .inr ⟨[], hy.symm⟩
    | cons d ds =>
      obtain ⟨rfl, rfl⟩ := List.cons.inj hy
      exact .inl ⟨ds, hv, rfl⟩
  · exact .inr ⟨x', hw⟩

/-- A blank in a text that begins with ink stands behind that. -/
theorem blank_behind_ink {c : Char} (hc : isBlank c = true) {x y v w : Text}
    (hv : v.all (!isBlank ·) = true) (h : x ++ c :: y = v ++ w) : ∃ x', w = x' ++ c :: y := by
  rcases append_cons_cases h with ⟨v', rfl, -⟩ | hw
  · simp [hc] at hv
  · exact hw

/-- What stands behind a blank of a closing mark is blank, or is a closing mark itself. -/
theorem IsCommentEnd.behind_blank {c : Char} (hc : isBlank c = true) {x y : Text}
    (h : IsCommentEnd kind (x ++ c :: y)) : allBlank y = true ∨ IsCommentEnd kind y := by
  have hrest : ∀ {v y : Text}, allBlank (v ++ c :: y) = true → allBlank y = true := fun hblank =>
    (allBlank_of_append (t := [c]) (allBlank_of_append hblank).2).2
  have hbehind : ∀ {v trail : Text}, allBlank trail = true → "-->" ++ trail = v ++ c :: y →
      allBlank y = true := by
    intro v trail htrail heq
    obtain ⟨v', rfl⟩ := blank_behind_ink hc (by decide) heq.symm
    exact hrest htrail
  generalize ht : x ++ c :: y = t at h
  cases h with
  | plain hgap htrail =>
    rcases append_cons_cases ht with ⟨gap', rfl, rfl⟩ | ⟨v, hv⟩
    · exact .inr (.plain (hrest hgap) htrail)
    · exact .inl (hbehind htrail hv)
  | slashed hlead hgap htrail =>
    rcases append_cons_cases ht with ⟨lead', rfl, rfl⟩ | ⟨v, hv⟩
    · exact .inr (.slashed (hrest hlead) hgap htrail)
    · obtain ⟨v', hv'⟩ := blank_behind_ink hc (by decide) hv.symm
      rcases append_cons_cases hv'.symm with ⟨gap', rfl, rfl⟩ | ⟨v'', hv''⟩
      · exact .inr (.plain (hrest hgap) htrail)
      · exact .inl (hbehind htrail hv'')

/-- A text that is blank or a closing mark loses all of its ink. -/
theorem allBlank_dropCommentEnd (h : allBlank b = true ∨ IsCommentEnd kind b) :
    allBlank (dropCommentEnd kind b) = true := by
  rcases h with hblank | hmark
  · rwa [dropCommentEnd_of_allBlank kind hblank]
  · rw [hmark.dropCommentEnd_eq]
    exact allBlank_finalLine b

/-- Nothing but blanks before the first closing mark is nothing at all. -/
theorem ClosedBy.eq_nil_of_allBlank (h : ClosedBy kind t u m) (hu : allBlank u = true) :
    u = [] := by
  have hmark : IsCommentEnd kind t := h.eq ▸ h.mark.blank_append hu
  exact List.length_eq_zero_iff.1 (Nat.le_zero.1 (h.first [] t rfl hmark))

/-- The first closing mark of a text is the first one of every part that it stands in. -/
theorem ClosedBy.of_append {front s : Text} (h : ClosedBy kind (front ++ b) (front ++ s) m) :
    ClosedBy kind b s m where
  eq := List.append_cancel_left (h.eq.trans (List.append_assoc _ _ _))
  mark := h.mark
  first := by
    intro u' m' hb hm'
    have hle := h.first (front ++ u') m' (by rw [hb, List.append_assoc]) hm'
    rw [List.length_append, List.length_append] at hle
    omega

/-- A line feed and what is before it are lost only as a part of a closing mark. -/
theorem isCommentEnd_of_dropCommentEnd_eq {j : Text}
    (h : dropCommentEnd kind (j ++ '\n' :: b) = dropCommentEnd kind b) :
    IsCommentEnd kind (j ++ '\n' :: b) := by
  obtain ⟨-, hsame⟩ | ⟨u, m, hclosed, hdrop⟩ := dropCommentEnd_cases kind (j ++ '\n' :: b)
  · have hle := length_dropCommentEnd_le kind b
    rw [← h, hsame, List.length_append, List.length_cons] at hle
    omega
  rw [hdrop] at h
  rcases append_cons_cases hclosed.eq with ⟨s, rfl, hb⟩ | ⟨x, hm⟩
  · -- the mark is in `b`, and the line before it is left
    have hinner : ClosedBy kind b s m := by
      rw [List.append_cons j '\n' b, List.append_cons j '\n' s] at hclosed
      exact hclosed.of_append
    rw [hinner.dropCommentEnd_eq, hclosed.eq, hb, finalLine_append _ hinner.mark.ne_nil,
      finalLine_append _ hinner.mark.ne_nil] at h
    have hlength := congrArg List.length h
    simp only [List.length_append, List.length_cons] at hlength
    omega
  · -- the mark holds the line feed, so that `b` leaves no ink
    have hmark : IsCommentEnd kind (x ++ '\n' :: b) := hm ▸ hclosed.mark
    have hblank := allBlank_dropCommentEnd (hmark.behind_blank (by decide))
    rw [← h] at hblank
    have hnil := hclosed.eq_nil_of_allBlank (allBlank_of_append hblank).1
    rw [hclosed.eq, hnil]
    exact hclosed.mark

/-- **When a line before a text makes no difference** to what is left of it: the two are a closing
mark together, and if the text has no ink of it, it is a line feed. -/
theorem dropCommentEnd_line_iff (kind : RawKind) (j b : Text) :
    dropCommentEnd kind (j ++ '\n' :: b) = dropCommentEnd kind b ↔
      IsCommentEnd kind (j ++ '\n' :: b) ∧ (allBlank b = true → b = ['\n']) := by
  constructor
  · intro h
    have hmark := isCommentEnd_of_dropCommentEnd_eq h
    refine ⟨hmark, fun hblank => ?_⟩
    rw [hmark.dropCommentEnd_eq, dropCommentEnd_of_allBlank kind hblank,
      finalLine_append j (by simp)] at h
    rw [← h, finalLine]
    split
    · rfl
    · rename_i hline
      rw [finalLine, if_neg hline] at h
      rw [← h] at hline
      exact absurd rfl hline
  · rintro ⟨hmark, hline⟩
    rw [hmark.dropCommentEnd_eq]
    rcases hmark.behind_blank (by decide) with hblank | hmark'
    · rw [hline hblank, dropCommentEnd_of_allBlank kind (by decide)]
      exact finalLine_append j (by simp)
    · rw [hmark'.dropCommentEnd_eq, List.append_cons j '\n' b]
      exact finalLine_append _ hmark'.ne_nil

/-! ## Opening comment marks -/

section Opening

variable {w rest : Text}

theorem stripStart_mark (hw : allBlank w = true) (rest : Text) :
    stripStart (w ++ ("<!--" ++ rest)) = "<!--" ++ rest := by
  rw [stripStart_blank_append hw]
  rfl

theorem dropCommentStart_style (hw : allBlank w = true) (rest : Text) :
    dropCommentStart .style (w ++ ("<!--" ++ rest)) = rest := by
  rw [dropCommentStart, stripStart_mark hw]
  rfl

/-- In a script a line feed right behind the opening mark goes with it. -/
theorem dropCommentStart_script_line (hw : allBlank w = true) (rest : Text) :
    dropCommentStart .script (w ++ ("<!--" ++ '\n' :: rest)) = rest := by
  rw [dropCommentStart, stripStart_mark hw]
  rfl

theorem dropCommentStart_script (hw : allBlank w = true) (hrest : rest.head? ≠ some '\n') :
    dropCommentStart .script (w ++ ("<!--" ++ rest)) = rest := by
  have hafter : after? "<!--" ("<!--" ++ rest) = some rest := after?_eq_some_iff.2 rfl
  have hslashes : after? "//" ("<!--" ++ rest) = none := rfl
  rw [dropCommentStart, stripStart_mark hw, hslashes]
  dsimp only
  rw [hafter]
  split
  · rename_i hline
    rw [Option.some.inj hline] at hrest
    exact absurd rfl hrest
  · rename_i hline
    exact (Option.some.inj hline).symm
  · rename_i hnone
    cases hnone

theorem dropCommentStart_of_not_infix (kind : RawKind) (h : ¬ "<!--".toList <:+: t) :
    dropCommentStart kind t = t := by
  have hnone : ∀ body, body <:+ t → after? "<!--" body = none := by
    intro body hbody
    rw [Option.eq_none_iff_forall_ne_some]
    intro rest hrest
    rw [after?_eq_some_iff] at hrest
    exact h ((List.prefix_append _ rest).isInfix.trans (hrest ▸ hbody.isInfix))
  have hstrip : stripStart t <:+ t := List.dropWhile_suffix _
  cases kind with
  | style =>
    rw [dropCommentStart, hnone _ hstrip]
  | script =>
    rw [dropCommentStart]
    cases hslashes : after? "//" (stripStart t) with
    | none =>
      dsimp only
      rw [hnone _ hstrip]
    | some rest =>
      have hrest : rest <:+ stripStart t := ⟨"//", (after?_eq_some_iff.1 hslashes).symm⟩
      have hbody : stripStart rest <:+ t := (List.dropWhile_suffix _).trans (hrest.trans hstrip)
      dsimp only
      rw [hnone _ hbody]

end Opening

/-! ## Section marks -/

/-- A closing section mark, in a block comment or behind slashes, with blanks where they may be. -/
inductive IsSectionEnd : Text → Prop
  | block {gap gap' trail : Text} (hgap : allBlank gap = true) (hgap' : allBlank gap' = true)
      (htrail : allBlank trail = true) :
      IsSectionEnd ("/*" ++ (gap ++ ("]]>" ++ (gap' ++ ("*/" ++ trail)))))
  | line {gap trail : Text} (hgap : allBlank gap = true) (htrail : allBlank trail = true) :
      IsSectionEnd ("//" ++ (gap ++ ("]]>" ++ trail)))

theorem exists_of_afterBlanks? {p rest : Text} (h : afterBlanks? p t = some rest) :
    ∃ gap, allBlank gap = true ∧ t = gap ++ (p ++ rest) := by
  obtain ⟨gap, hgap, ht⟩ := exists_stripStart t
  rw [afterBlanks?, after?_eq_some_iff] at h
  rw [h] at ht
  exact ⟨gap, hgap, ht⟩

theorem afterBlanks?_append {gap : Text} (hgap : allBlank gap = true) {p : Text}
    (hp : p.head?.any (!isBlank ·) = true) (rest : Text) :
    afterBlanks? p (gap ++ (p ++ rest)) = some rest := by
  cases p with
  | nil => cases hp
  | cons c cs =>
    have hc : isBlank c = false := by simpa using hp
    rw [afterBlanks?, stripStart_blank_append hgap, after?_eq_some_iff, List.cons_append,
      stripStart, List.dropWhile_cons_of_neg (by simp [hc])]

theorem isSectionEnd_iff : isSectionEnd t = true ↔ IsSectionEnd t := by
  rw [isSectionEnd]
  constructor
  · intro h
    split at h
    · rename_i rest hrest
      simp only [Option.orElse_eq_or, Option.or_eq_some_iff, Option.bind_eq_bind,
        Option.bind_eq_some_iff] at hrest
      rcases hrest with ⟨a, ha, b, hb, hrest⟩ | ⟨-, a, ha, hb⟩
      · obtain rfl := after?_eq_some_iff.1 ha
        obtain ⟨gap, hgap, rfl⟩ := exists_of_afterBlanks? hb
        obtain ⟨gap', hgap', rfl⟩ := exists_of_afterBlanks? hrest
        exact .block hgap hgap' h
      · obtain rfl := after?_eq_some_iff.1 ha
        obtain ⟨gap, hgap, rfl⟩ := exists_of_afterBlanks? hb
        exact .line hgap h
    · cases h
  · rintro (@⟨gap, gap', trail, hgap, hgap', htrail⟩ | @⟨gap, trail, hgap, htrail⟩)
    · have hopen : after? "/*" ("/*" ++ (gap ++ ("]]>" ++ (gap' ++ ("*/" ++ trail)))))
          = some (gap ++ ("]]>" ++ (gap' ++ ("*/" ++ trail)))) := after?_eq_some_iff.2 rfl
      have hmark := afterBlanks?_append hgap (p := "]]>") (by decide) (gap' ++ ("*/" ++ trail))
      have hclose := afterBlanks?_append hgap' (p := "*/") (by decide) trail
      simpa only [Option.bind_eq_bind, hopen, hmark, hclose, Option.bind_some,
        Option.orElse_some] using htrail
    · have hblock : after? "/*" ("//" ++ (gap ++ ("]]>" ++ trail))) = none := rfl
      have hopen : after? "//" ("//" ++ (gap ++ ("]]>" ++ trail)))
          = some (gap ++ ("]]>" ++ trail)) := after?_eq_some_iff.2 rfl
      have hmark := afterBlanks?_append hgap (p := "]]>") (by decide) trail
      simpa only [Option.bind_eq_bind, hblock, hopen, hmark, Option.bind_none, Option.bind_some,
        Option.orElse_none] using htrail

namespace IsSectionEnd

theorem ink_eq (h : IsSectionEnd m) : ink m = "/*]]>*/" ∨ ink m = "//]]>" := by
  cases h with
  | block hgap hgap' htrail =>
    left
    simp only [ink_append, ink_eq_nil_iff.2 hgap, ink_eq_nil_iff.2 hgap', ink_eq_nil_iff.2 htrail]
    decide
  | line hgap htrail =>
    right
    simp only [ink_append, ink_eq_nil_iff.2 hgap, ink_eq_nil_iff.2 htrail]
    decide

theorem head?_eq (h : IsSectionEnd m) : m.head? = some '/' := by
  cases h <;> rfl

theorem infix_mark (h : IsSectionEnd m) : "]]>".toList <:+: m := by
  cases h with
  | @block gap gap' trail => exact ⟨"/*" ++ gap, gap' ++ ("*/" ++ trail), by simp⟩
  | @line gap trail => exact ⟨"//" ++ gap, trail, by simp⟩

/-- **No closing section mark ends in another one**: it has no ink to spare. -/
theorem eq_nil_of_append {s : Text} (h : IsSectionEnd (s ++ m)) (hm : IsSectionEnd m) :
    s = [] := by
  have hink : ink s = [] := by
    have hsum := ink_append s m
    rcases h.ink_eq with hall | hall <;> rcases hm.ink_eq with hmark | hmark <;>
      rw [hall, hmark] at hsum
    · exact List.self_eq_append_left.1 hsum
    · exact absurd (congrArg List.getLast? hsum) (by simp)
    · exact absurd (congrArg List.getLast? hsum) (by simp)
    · exact List.self_eq_append_left.1 hsum
  cases s with
  | nil => rfl
  | cons c cs =>
    have hc : c = '/' := Option.some.inj h.head?_eq
    rw [hc, ink_cons_of_not_blank (by decide)] at hink
    cases hink

end IsSectionEnd

/-- **A closing section mark is dropped behind any text.** -/
theorem dropSectionEnd_append (b : Text) (hm : IsSectionEnd m) : dropSectionEnd (b ++ m) = b := by
  induction b with
  | nil =>
    obtain ⟨c, cs, rfl⟩ : ∃ c cs, m = c :: cs := by
      obtain ⟨cs, hcs⟩ := List.head?_eq_some_iff.1 hm.head?_eq
      exact ⟨'/', cs, hcs⟩
    rw [List.nil_append, dropSectionEnd, if_pos (isSectionEnd_iff.2 hm)]
  | cons c cs ih =>
    have hno : ¬ isSectionEnd (c :: (cs ++ m)) = true := by
      rw [isSectionEnd_iff]
      intro h
      cases h.eq_nil_of_append (s := c :: cs) hm
    rw [List.cons_append, dropSectionEnd, if_neg hno, ih]

theorem dropSectionEnd_of_not_infix (h : ¬ "]]>".toList <:+: t) : dropSectionEnd t = t := by
  induction t with
  | nil => rfl
  | cons c cs ih =>
    have hno : ¬ isSectionEnd (c :: cs) = true := fun hend =>
      h (isSectionEnd_iff.1 hend).infix_mark
    have hcs : ¬ "]]>".toList <:+: cs := fun hrest =>
      h (hrest.trans (List.suffix_cons c cs).isInfix)
    rw [dropSectionEnd, if_neg hno, ih hcs]

/-- An opening section mark in a block comment is dropped with the comment. -/
theorem dropSectionStart_block {lead gap gap' : Text} (hlead : allBlank lead = true)
    (hgap : allBlank gap = true) (hgap' : allBlank gap' = true) (rest : Text) :
    dropSectionStart (lead ++ ("/*" ++ (gap ++ ("<![CDATA[" ++ (gap' ++ ("*/" ++ rest))))))
      = rest := by
  have hopen := afterBlanks?_append hlead (p := "/*") (by decide)
    (gap ++ ("<![CDATA[" ++ (gap' ++ ("*/" ++ rest))))
  have hmark := afterBlanks?_append hgap (p := "<![CDATA[") (by decide) (gap' ++ ("*/" ++ rest))
  have hclose := afterBlanks?_append hgap' (p := "*/") (by decide) rest
  simp only [dropSectionStart, Option.bind_eq_bind, hopen, hmark, hclose, Option.bind_some,
    Option.orElse_some, Option.getD_some]

/-- Of an opening section mark behind slashes the whole line is dropped. -/
theorem dropSectionStart_line {lead gap j : Text} (hlead : allBlank lead = true)
    (hgap : allBlank gap = true) (hj : '\n' ∉ j) (rest : Text) :
    dropSectionStart (lead ++ ("//" ++ (gap ++ ("<![CDATA[" ++ (j ++ '\n' :: rest)))))
      = '\n' :: rest := by
  have hblock : afterBlanks? "/*" (lead ++ ("//" ++ (gap ++ ("<![CDATA[" ++ (j ++ '\n' :: rest)))))
      = none := by
    rw [afterBlanks?, stripStart_blank_append hlead]
    rfl
  have hopen := afterBlanks?_append hlead (p := "//") (by decide)
    (gap ++ ("<![CDATA[" ++ (j ++ '\n' :: rest)))
  have hmark := afterBlanks?_append hgap (p := "<![CDATA[") (by decide) (j ++ '\n' :: rest)
  have hline : (j ++ '\n' :: rest).dropWhile (· != '\n') = '\n' :: rest :=
    dropWhile_append_stop (bne_of_not_mem hj) rfl rest
  simp only [dropSectionStart, Option.bind_eq_bind, hblock, hopen, hmark, hline, Option.bind_none,
    Option.bind_some, Option.orElse_none, Option.getD_some]

theorem dropSectionStart_of_not_infix (h : ¬ "<![CDATA[".toList <:+: t) :
    dropSectionStart t = t := by
  have hnone : ∀ p body, afterBlanks? p t = some body → afterBlanks? "<![CDATA[" body = none := by
    intro p body hbody
    rw [Option.eq_none_iff_forall_ne_some]
    intro rest hrest
    obtain ⟨lead, -, rfl⟩ := exists_of_afterBlanks? hbody
    obtain ⟨gap, -, rfl⟩ := exists_of_afterBlanks? hrest
    exact h ⟨lead ++ (p ++ gap), rest, by simp⟩
  have hno : ∀ (p : Text) (next : Text → Option Text),
      ((afterBlanks? p t).bind fun body => (afterBlanks? "<![CDATA[" body).bind next) = none := by
    intro p next
    cases hbody : afterBlanks? p t with
    | none => rfl
    | some body => rw [Option.bind_some, hnone p body hbody, Option.bind_none]
  simp only [dropSectionStart, Option.bind_eq_bind, hno, Option.orElse_none, Option.getD_none]

/-! ## Wrapped bodies -/

theorem removeComments_style_wrapped (b : Text) :
    removeComments .style ("<!--" ++ b ++ "-->") = stripEnd b := by
  have hstart : dropCommentStart .style ("<!--" ++ b ++ "-->") = b ++ "-->" :=
    dropCommentStart_style (w := []) rfl (b ++ "-->")
  have hclosed : b ++ "-->" = b ++ ("-->" ++ ([] : Text)) := rfl
  have hline : finalLine (b ++ "-->") = [] := finalLine_append b (by decide)
  rw [removeComments, hstart, dropCommentEnd_eq .style hclosed rfl, hline, List.append_nil,
    slashless]

theorem removeComments_script_wrapped (b : Text) :
    removeComments .script ("<!--\n" ++ b ++ "\n//-->") = stripEnd b := by
  have hstart : dropCommentStart .script ("<!--\n" ++ b ++ "\n//-->") = b ++ "\n//-->" :=
    dropCommentStart_script_line (w := []) rfl (b ++ "\n//-->")
  have hclosed : b ++ "\n//-->" = (b ++ "\n//") ++ ("-->" ++ ([] : Text)) :=
    (List.append_assoc b "\n//" "-->").symm
  have hline : finalLine (b ++ "\n//-->") = [] := finalLine_append b (by decide)
  have hslashes : stripEnd (b ++ "\n//") = b ++ "\n//" := stripEnd_append_ink rfl (by decide) b
  have hbefore : before? "//" (b ++ "\n//") = some (b ++ "\n") :=
    before?_eq_some_iff.2 (List.append_assoc b "\n" "//").symm
  rw [removeComments, hstart, dropCommentEnd_eq .script hclosed rfl, hline, List.append_nil,
    hslashes, slashless, hbefore]
  exact stripEnd_append (by decide)

theorem removeSections_block (b : Text) :
    removeSections ("/*<![CDATA[*/" ++ b ++ "/*]]>*/") = b := by
  have hstart : dropSectionStart ("/*<![CDATA[*/" ++ b ++ "/*]]>*/") = b ++ "/*]]>*/" :=
    @dropSectionStart_block [] [] [] rfl rfl rfl (b ++ "/*]]>*/")
  rw [removeSections, hstart]
  exact dropSectionEnd_append b (@IsSectionEnd.block [] [] [] rfl rfl rfl)

theorem removeSections_line {j : Text} (hj : '\n' ∉ j) (b : Text) :
    removeSections ("//<![CDATA[" ++ j ++ "\n" ++ b ++ "\n//]]>") = "\n" ++ b ++ "\n" := by
  have hsplit : "//<![CDATA[" ++ j ++ "\n" ++ b ++ "\n//]]>"
      = "//<![CDATA[" ++ (j ++ '\n' :: (b ++ "\n" ++ "//]]>")) := by simp
  have hstart : dropSectionStart ("//<![CDATA[" ++ (j ++ '\n' :: (b ++ "\n" ++ "//]]>")))
      = "\n" ++ b ++ "\n" ++ "//]]>" :=
    @dropSectionStart_line [] [] j rfl rfl hj (b ++ "\n" ++ "//]]>")
  rw [removeSections, hsplit, hstart]
  exact dropSectionEnd_append _ (@IsSectionEnd.line [] [] rfl rfl)

/-- **Unwrapping undoes wrapping.**  A body between comment marks comes back without the blanks at
its end, and a body between section marks as it is, whatever it holds; of an opening section mark
behind slashes the rest of the line `j` goes with it.  A text that holds none of the marks is left
as it is. -/
theorem remove_wrapped (b j : Text) (hj : '\n' ∉ j) :
    removeCommentsFor "style" ("<!--" ++ b ++ "-->") = .ok (stripEnd b) ∧
      removeCommentsFor "script" ("<!--\n" ++ b ++ "\n//-->") = .ok (stripEnd b) ∧
      removeSections ("/*<![CDATA[*/" ++ b ++ "/*]]>*/") = b ∧
      removeSections ("//<![CDATA[" ++ j ++ "\n" ++ b ++ "\n//]]>") = "\n" ++ b ++ "\n" ∧
      ∀ t : Text, (∀ mark ∈ ([("<!--" : Text), "-->", "<![CDATA[", "]]>"] : List Text),
          ¬ mark <:+: t) →
        removeCommentsFor "style" t = .ok t ∧ removeCommentsFor "script" t = .ok t ∧
          removeSections t = t := by
  refine ⟨congrArg Except.ok (removeComments_style_wrapped b),
    congrArg Except.ok (removeComments_script_wrapped b), removeSections_block b,
    removeSections_line hj b, fun t ht => ?_⟩
  simp only [List.mem_cons, List.not_mem_nil, or_false, forall_eq_or_imp, forall_eq] at ht
  obtain ⟨hopen, hclose, hstart, hend⟩ := ht
  have hcomments : ∀ kind, removeComments kind t = t := fun kind => by
    rw [removeComments, dropCommentStart_of_not_infix kind hopen,
      dropCommentEnd_of_not_infix kind hclose]
  refine ⟨congrArg Except.ok (hcomments .style), congrArg Except.ok (hcomments .script), ?_⟩
  rw [removeSections, dropSectionStart_of_not_infix hstart, dropSectionEnd_of_not_infix hend]

/-- A body that holds closing marks and ends in pieces of them, and a text with pieces of all
marks. -/
theorem remove_wrapped_pieces :
    let b : Text := "a-->]]>*/ //"
    let t : Text := "// <!- -- > <![CDATA ]] >"
    removeCommentsFor "style" ("<!--" ++ b ++ "-->") = .ok b ∧
      removeCommentsFor "script" ("<!--\n" ++ b ++ "\n//-->") = .ok b ∧
      removeSections ("/*<![CDATA[*/" ++ b ++ "/*]]>*/") = b ∧
      removeSections ("//<![CDATA[" ++ "*/" ++ "\n" ++ b ++ "\n//]]>") = "\n" ++ b ++ "\n" ∧
      removeCommentsFor "script" t = .ok t ∧ removeSections t = t := by
  intro b t
  have ht : ∀ mark ∈ ([("<!--" : Text), "-->", "<![CDATA[", "]]>"] : List Text),
      ¬ mark <:+: t := by decide +kernel
  obtain ⟨hstyle, hscript, hblock, hline, hfree⟩ := remove_wrapped b "*/" (by decide)
  obtain ⟨-, hcomments, hsections⟩ := hfree t ht
  have hstrip : stripEnd b = b := by decide +kernel
  rw [hstrip] at hstyle hscript
  exact ⟨hstyle, hscript, hblock, hline, hcomments, hsections⟩

/-! ## The rest of the line -/

/-- **What an opening mark takes with it in a script**: the blanks before it and a line feed right
behind it, and no more.  If the line goes on, the rest of it is left, unless it is a part of the
closing mark.  So only the closing mark is missing in what follows the line exactly if nothing is
behind the opening mark, or nothing but a closing mark is. -/
theorem removeComments_line_iff {w j : Text} (hw : allBlank w = true) (hj : '\n' ∉ j) (b : Text) :
    removeCommentsFor "script" (w ++ "<!--" ++ j ++ "\n" ++ b)
        = .ok (dropCommentEnd .script (if j = [] then b else j ++ "\n" ++ b)) ∧
      (removeCommentsFor "script" (w ++ "<!--" ++ j ++ "\n" ++ b)
          = .ok (dropCommentEnd .script b) ↔
        j = [] ∨ IsCommentEnd .script (j ++ "\n" ++ b) ∧ (allBlank b = true → b = "\n")) := by
  have hsplit : w ++ "<!--" ++ j ++ "\n" ++ b = w ++ ("<!--" ++ (j ++ "\n" ++ b)) := by simp
  have hfor : ∀ t, removeCommentsFor "script" t
      = .ok (dropCommentEnd .script (dropCommentStart .script t)) := fun _ => rfl
  rw [hfor, hsplit, Except.ok.injEq, Except.ok.injEq]
  by_cases hnil : j = []
  · have hstart : dropCommentStart .script (w ++ ("<!--" ++ (j ++ "\n" ++ b))) = b := by
      rw [hnil]
      exact dropCommentStart_script_line hw b
    rw [hstart, if_pos hnil]
    exact ⟨rfl, iff_of_true rfl (.inl hnil)⟩
  · have hhead : (j ++ "\n" ++ b).head? ≠ some '\n' := by
      obtain ⟨c, cs, rfl⟩ := List.exists_cons_of_ne_nil hnil
      rintro ⟨⟩
      exact hj List.mem_cons_self
    have hline : j ++ "\n" ++ b = j ++ '\n' :: b := List.append_assoc j ['\n'] b
    rw [dropCommentStart_script hw hhead, if_neg hnil, hline, dropCommentEnd_line_iff]
    exact ⟨rfl, (or_iff_right hnil).symm⟩

/-- A line that is a part of the closing mark goes with that. -/
theorem removeComments_line_iff_slashes :
    allBlank "\t" = true ∧ '\n' ∉ (" //" : Text) ∧
      removeCommentsFor "script" "\t<!-- //\n -->\n" = .ok "\n" := by
  have hblank : allBlank "\t" = true := by decide
  have hline : '\n' ∉ (" //" : Text) := by decide
  have hmark : IsCommentEnd .script (" //" ++ "\n" ++ " -->\n") :=
    @IsCommentEnd.slashed [' '] ['\n', ' '] ['\n'] (by decide) (by decide) (by decide)
  exact ⟨hblank, hline, (removeComments_line_iff hblank hline " -->\n").2.2
    (.inr ⟨hmark, fun h => absurd h (by decide)⟩)⟩

/-- The rest of the line that hides a script is left as a part of the script. -/
theorem removeComments_line_left :
    removeCommentsFor "script" "<!-- hide\nvar a;\n//-->" = .ok " hide\nvar a;" ∧
      removeCommentsFor "script" "<!-- hide\nvar a;\n//-->"
        ≠ .ok (dropCommentEnd .script "var a;\n//-->") := by
  decide +kernel

end PagePress.Wrapper

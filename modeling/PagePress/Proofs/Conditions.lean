import PagePress.Proofs.Blanks
import PagePress.Proofs.Transcript

/-!
# Conditional comments

A conditional comment holds a condition, a body and a closing mark, and only some browsers show the
body.  Three functions are there to carry it over when comments are removed: one recognises it, one
cleans its body of blanks, and one writes it.  This file says what each of them does with it.

* `Comment.conditional c b` is the text of the comment with the condition `c` and the body `b`, and
  `Comment.shown c b` is what a browser would have to find of it.
* `isConditional_iff` says what is recognised: a condition that nothing follows.  So no comment with
  a body is, and all of them are dropped.
* `clean_conditional` says that cleaning writes a mark of its own in place of the condition and of
  the closing mark.  `clean_condition` says what it does to a comment that is recognised.
* `not_prefix_chunk` says that no comment is written as one, whatever the options are.
* `comment_conditional` puts this together for a run.
-/

set_option autoImplicit false

namespace PagePress

namespace Comment

open Text

/-- The text of the comment with a condition and a body. -/
def conditional (c b : Text) : Text := "[if" ++ c ++ "]>" ++ b ++ "<![endif]"

/-- The comment with a condition and a body, with its body stripped. -/
def shown (c b : Text) : Text := "<!--[if" ++ c ++ "]>" ++ Text.strip b ++ "<![endif]-->"

/-! ## What is recognised -/

/-- **What is recognised**: a condition in brackets, which holds no closing bracket and which
nothing follows. -/
theorem isConditional_iff {t : Text} :
    isConditional t = true ↔ ∃ c : Text, c ≠ [] ∧ ']' ∉ c ∧ t = "[if" ++ c ++ "]" := by
  rw [isConditional]
  constructor
  · intro h
    cases hafter : after? "[if" t with
    | none => rw [hafter] at h; cases h
    | some rest =>
      rw [hafter] at h
      simp only [Bool.and_eq_true, beq_iff_eq, Bool.not_eq_true', List.isEmpty_eq_false_iff] at h
      obtain ⟨⟨hlast, hne⟩, hfree⟩ := h
      obtain ⟨c, rfl⟩ := List.getLast?_eq_some_iff.1 hlast
      rw [List.dropLast_concat] at hne hfree
      refine ⟨c, hne, by simpa using hfree, ?_⟩
      rw [after?_eq_some_iff.1 hafter, List.append_assoc]
      rfl
  · rintro ⟨c, hne, hfree, rfl⟩
    have hafter : after? "[if" ("[if" ++ c ++ "]") = some (c ++ [']']) :=
      after?_eq_some_iff.2 (List.append_assoc _ _ _)
    rw [hafter]
    simp [hne, hfree]

/-- No comment with a body is recognised: the bracket behind its condition is not the last one. -/
theorem isConditional_conditional (c b : Text) : isConditional (conditional c b) = false := by
  rw [Bool.eq_false_iff, Ne, isConditional_iff]
  rintro ⟨d, -, hfree, heq⟩
  have hsplit : conditional c b = "[if" ++ (c ++ "]>" ++ b ++ "<![endif") ++ "]" := by
    delta conditional
    simp
  rw [hsplit] at heq
  have hd : c ++ "]>" ++ b ++ "<![endif" = d :=
    List.append_cancel_left (List.append_cancel_right heq)
  rw [← hd] at hfree
  simp at hfree

/-! ## What is cleaned -/

/-- A text keeps its last character if that is no line feed. -/
theorem dropFinalNewline_append (t : Text) {u : Text} (hne : u ≠ [])
    (hlast : u.getLast? ≠ some '\n') : dropFinalNewline (t ++ u) = t ++ u := by
  rw [dropFinalNewline, List.getLast?_append_of_ne_nil _ hne, if_neg (by simpa using hlast)]

theorem cleanOpening_body {c : Text} (hne : c ≠ []) (hc : ']' ∉ c) (body : Text) :
    cleanOpening ('[' :: (c ++ ']' :: '>' :: body)) = mark ++ stripStart body := by
  have htake : (c ++ ']' :: '>' :: body).takeWhile (· != ']') = c :=
    takeWhile_append_stop (bne_of_not_mem hc) rfl _
  have hdrop : (c ++ ']' :: '>' :: body).dropWhile (· != ']') = ']' :: '>' :: body :=
    dropWhile_append_stop (bne_of_not_mem hc) rfl _
  have hafter : after? "]>" (']' :: '>' :: body) = some body := after?_eq_some_iff.2 rfl
  rw [cleanOpening, htake, hdrop, hafter, if_neg (by simpa using hne)]

theorem cleanOpening_bare {c : Text} (hc : ']' ∉ c) :
    cleanOpening ('[' :: (c ++ [']'])) = '[' :: (c ++ [']']) := by
  have hdrop : (c ++ [']']).dropWhile (· != ']') = [']'] :=
    dropWhile_append_stop (bne_of_not_mem hc) rfl []
  have hafter : after? "]>" [']'] = none := rfl
  rw [cleanOpening, hdrop, hafter]
  exact ite_self _

theorem cleanClosing_append (before : Text) :
    cleanClosing (before ++ "<![endif]") = stripEnd before ++ mark := by
  have hline : dropFinalNewline (before ++ "<![endif]") = before ++ "<![endif]" :=
    dropFinalNewline_append before (by decide) (by decide)
  have hbefore : before? "<![endif]" (before ++ "<![endif]") = some before :=
    before?_eq_some_iff.2 rfl
  rw [cleanClosing, hline, hbefore]
  dsimp only
  rw [List.drop_length, List.append_nil]

/-- **What cleaning leaves of a comment with a body**: the stripped body, between two marks. -/
theorem clean_conditional {c : Text} (hc : ']' ∉ c) (b : Text) :
    clean (conditional c b) = mark ++ strip b ++ mark := by
  have hcons : conditional c b
      = '[' :: ('i' :: 'f' :: c ++ ']' :: '>' :: (b ++ "<![endif]")) := by
    delta conditional
    simp
  have hmark : stripEnd (mark ++ stripStart b) = mark ++ strip b := by
    show stripEnd ('$' :: '1' :: stripStart b) = '$' :: '1' :: stripEnd (stripStart b)
    rw [stripEnd_cons_of_ink (by decide), stripEnd_cons_of_ink (by decide)]
  have hstart : stripStart (b ++ "<![endif]") = stripStart b ++ "<![endif]" :=
    stripStart_append_cons (by decide) b _
  rw [clean, hcons, cleanOpening_body (by simp) (by simpa using hc), hstart, ← List.append_assoc,
    cleanClosing_append, hmark]

/-- **What cleaning leaves of a condition that nothing follows**: all of it, unless its end reads as
a closing mark. -/
theorem clean_condition {c : Text} (hc : ']' ∉ c) (hend : ¬ "<![endif".toList <:+ c) :
    clean ("[if" ++ c ++ "]") = "[if" ++ c ++ "]" := by
  have hopening : cleanOpening ("[if" ++ c ++ "]") = "[if" ++ c ++ "]" :=
    cleanOpening_bare (c := 'i' :: 'f' :: c) (by simpa using hc)
  have hline : dropFinalNewline ("[if" ++ c ++ "]") = "[if" ++ c ++ "]" :=
    dropFinalNewline_append _ (by decide) (by decide)
  have hnone : before? "<![endif]" ("[if" ++ c ++ "]") = none := by
    rw [Option.eq_none_iff_forall_ne_some]
    intro before hbefore
    have heq : "[if" ++ c ++ "]" = (before ++ "<![endif") ++ "]" :=
      (before?_eq_some_iff.1 hbefore).trans (List.append_assoc before "<![endif" "]").symm
    have hclosed := List.append_cancel_right heq
    rcases List.append_eq_append_iff.1 hclosed with ⟨e, -, he⟩ | ⟨e, he, he'⟩
    · exact hend ⟨e, he.symm⟩
    · -- the closing mark cannot begin inside of the opening one
      cases e with
      | nil => exact hend ⟨[], he'⟩
      | cons x xs =>
        have hx : x = '<' := ((List.cons.inj he').1).symm
        have hmem : x ∈ "[if".toList := by
          rw [he]
          simp
        rw [hx] at hmem
        exact absurd hmem (by decide)
  rw [clean, hopening, cleanClosing, hline, hnone]

/-! ## What is written -/

section Chunk

variable {o : Options} {t : Text}

theorem chunk_of_isConditional (hremove : o.removeComments = true) (ht : isConditional t = true) :
    chunk o t = "<not --" ++ clean t ++ "-->" := by
  rw [chunk, hremove, ht]
  rfl

/-- When comments are removed, one leaves something exactly if it is recognised. -/
theorem chunk_eq_nil_iff (hremove : o.removeComments = true) :
    chunk o t = [] ↔ isConditional t = false := by
  cases ht : isConditional t with
  | true =>
    rw [chunk_of_isConditional hremove ht]
    simp
  | false =>
    rw [chunk, hremove, ht]
    simp

/-- No comment is written as one, whatever the options are. -/
theorem not_prefix_chunk (o : Options) (t : Text) : ¬ "<!--".toList <+: chunk o t := by
  have hwrapped : ∀ u : Text, ¬ "<!--".toList <+: "<not --" ++ u ++ "-->" := by
    intro u
    simp
  rw [chunk]
  split
  · split
    · exact hwrapped _
    · decide
  · exact hwrapped t

theorem prefix_shown (c b : Text) : "<!--".toList <+: shown c b := by
  delta shown
  simp

end Chunk

end Comment

/-! ## What a run does -/

namespace Run

/-- **What becomes of conditional comments** when comments are removed.  A comment with a condition
and a body leaves an empty chunk and nothing else, and no comment at all is written as a browser
would have to find it.  A comment leaves more than an empty chunk exactly if it is a condition that
nothing follows; then it is written behind another mark, and whole unless its end reads as a closing
mark.  And what cleaning makes of a conditional comment is its stripped body between two marks, with
neither its condition nor its closing mark. -/
theorem comment_conditional (tools : Tools) {o : Options} (hremove : o.removeComments = true)
    (r : Run) (s : Service) (c b : Text) :
    r.step tools o s (.comment (Comment.conditional c b)) = { run := r.write [[]], service := s } ∧
      (∀ t, (r.step tools o s (.comment t)).run ≠ r.write [Comment.shown c b]) ∧
      (∀ t, (r.step tools o s (.comment t)).run ≠ r.write [[]] ↔
        ∃ d : Text, d ≠ [] ∧ ']' ∉ d ∧ t = "[if" ++ d ++ "]") ∧
      (∀ d : Text, d ≠ [] → ']' ∉ d → ¬ "<![endif".toList <:+ d →
        (r.step tools o s (.comment ("[if" ++ d ++ "]"))).run
          = r.write ["<not --[if" ++ d ++ "]-->"]) ∧
      (']' ∉ c → Comment.clean (Comment.conditional c b)
        = Comment.mark ++ Text.strip b ++ Comment.mark) := by
  have hstep : ∀ t, r.step tools o s (.comment t)
      = { run := r.write [Comment.chunk o t], service := s } := fun _ => rfl
  have hwrite : ∀ chunk chunk' : Text, r.write [chunk] = r.write [chunk'] ↔ chunk = chunk' := by
    intro chunk chunk'
    simp [write]
  refine ⟨?_, fun t => ?_, fun t => ?_, fun d hne hd hend => ?_, fun hc =>
    Comment.clean_conditional hc b⟩
  · rw [hstep, (Comment.chunk_eq_nil_iff hremove).2 (Comment.isConditional_conditional c b)]
  · rw [hstep, Ne, hwrite]
    intro hshown
    exact Comment.not_prefix_chunk o t (hshown ▸ Comment.prefix_shown c b)
  · rw [hstep, Ne, hwrite, Comment.chunk_eq_nil_iff hremove, Bool.not_eq_false,
      Comment.isConditional_iff]
  · rw [hstep, Comment.chunk_of_isConditional hremove
      (Comment.isConditional_iff.2 ⟨d, hne, hd, rfl⟩), Comment.clean_condition hd hend]
    simp

/-- A comment with a body that holds one of its own is dropped, in the middle of an element. -/
theorem comment_conditional_nested :
    let r := ((Page.opening {}).feed {} {} { replies := [] } [.start "p" []]).run
    let text : Text := "[if lt IE 9]> <!--[if IE]> a <![endif]"
    (r.step {} {} { replies := [] } (.comment text)).run = r.write [[]] ∧
      Comment.clean text = "$1<!--[if IE]> a$1" := by
  intro r text
  have htext : text = Comment.conditional " lt IE 9" " <!--[if IE]> a " := by decide +kernel
  have hc : ']' ∉ (" lt IE 9" : Text) := by decide
  obtain ⟨hdropped, -, -, -, hclean⟩ := comment_conditional {} (o := {}) rfl r { replies := [] }
    " lt IE 9" " <!--[if IE]> a "
  rw [htext]
  exact ⟨congrArg Step.run hdropped, (hclean hc).trans (by decide +kernel)⟩

end Run

/-- A page with a conditional comment loses it. -/
theorem Session.minify_conditional_lost :
    let events : List Event := [.comment "[if IE]>x<![endif]"]
    let answer := (({} : Session).minify "m" {} (some (['x'], .ok events))).2.answer
    answer = .ok (.text "<!DOCTYPE html>") ∧
      answer ≠ .ok (.text "<!DOCTYPE html><!--[if IE]>x<![endif]-->") := by
  intro events answer
  have hanswer : answer = .ok (.text "<!DOCTYPE html>") := by
    have hfault : (Page.minifyEvents {} {} { replies := [] } events).fault = none := by
      decide +kernel
    have hpage : Chunk.page (Page.minifyEvents {} {} { replies := [] } events).emitted
        = "<!DOCTYPE html>".toList := by
      decide +kernel
    show (({} : Session).minify "m" {} (some (['x'], .ok events))).2.answer = _
    rw [minify_answer, show ({} : Minifier).settings.options = {} from Settings.options_default,
      hfault, List.nil_append, hpage]
  refine ⟨hanswer, fun h => ?_⟩
  rw [hanswer, Except.ok.injEq, Answer.text.injEq] at h
  exact absurd h (by decide)

end PagePress

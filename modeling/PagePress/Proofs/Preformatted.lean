import Mathlib.Data.List.TakeDrop
import PagePress.Proofs.OpenElements

/-!
# Preformatted text

The blanks of a preformatted element mean something, and a run adds its text as it is.  But at the
end every chunk of a page is tidied, and by then nobody knows from which element it is.  So blanks
at the ends of a preformatted text are lost.  This file says exactly which.

* `Framed.tidy_eq` says what tidying leaves of a text: of the blanks before its body the last one,
  and of those behind it the first.
* `tidy_eq_self_iff` concludes that a text is left as it is exactly if it neither starts nor ends
  with two blanks.
* `minify_preformatted_iff` is the whole way of a page that is one preformatted element.
-/

set_option autoImplicit false

namespace PagePress

/-! ## What tidying leaves of a text -/

namespace Text

variable {t lead body trail : Text}

theorem Framed.reverse (h : Framed t lead body trail) :
    Framed t.reverse trail.reverse body.reverse lead.reverse where
  eq := by rw [h.eq]; simp
  lead := by rw [allBlank, List.all_reverse]; exact h.trail
  trail := by rw [allBlank, List.all_reverse]; exact h.lead
  head := by rw [List.head?_reverse]; exact h.last
  last := by rw [List.getLast?_reverse]; exact h.head

/-- The blanks before the body are all that a text with a body starts with. -/
theorem Framed.lead_eq (h : Framed t lead body trail) (hne : body ≠ []) : Chunk.lead t = lead := by
  obtain ⟨c, cs, rfl⟩ := List.exists_cons_of_ne_nil hne
  have hc : isBlank c = false := h.head c rfl
  rw [Chunk.lead, h.eq, List.append_assoc, List.takeWhile_append_of_pos (List.all_eq_true.1 h.lead),
    List.cons_append, List.takeWhile_cons_of_neg (by simp [hc]), List.append_nil]

theorem Framed.trail_eq (h : Framed t lead body trail) (hne : body ≠ []) :
    Chunk.trail t = trail := by
  have hlead : Chunk.lead t.reverse = trail.reverse := h.reverse.lead_eq (by simpa using hne)
  show (Chunk.lead t.reverse).reverse = trail
  rw [hlead, List.reverse_reverse]

/-- **Tidying, seen from the body**: one blank is left at each end where there are any. -/
theorem Framed.tidy_eq (h : Framed t lead body trail) (hne : body ≠ []) :
    Chunk.tidy t = lead.getLast?.toList ++ body ++ trail.head?.toList := by
  have hink : ¬ allBlank t = true := by
    rw [← strip_eq_nil_iff, h.strip_eq]
    exact hne
  rw [Chunk.tidy, if_neg hink, h.lead_eq hne, h.trail_eq hne, h.strip_eq]

end Text

namespace Chunk

open Text

/-- No beginning of a text that is all blank is longer than the blanks it starts with. -/
theorem forall_prefix_iff {t : Text} {n : Nat} :
    (∀ u, u <+: t → allBlank u = true → u.length ≤ n) ↔ (lead t).length ≤ n := by
  constructor
  · intro h
    refine h (lead t) (List.takeWhile_prefix _) (List.all_eq_true.2 fun c hc => ?_)
    exact List.mem_takeWhile_imp hc
  · rintro h u ⟨v, rfl⟩ hblank
    have hlead : lead (u ++ v) = u ++ lead v :=
      List.takeWhile_append_of_pos (List.all_eq_true.1 hblank)
    rw [hlead, List.length_append] at h
    omega

/-- No end of a text that is all blank is longer than the blanks it ends with. -/
theorem forall_suffix_iff {t : Text} {n : Nat} :
    (∀ u, u <:+ t → allBlank u = true → u.length ≤ n) ↔ (trail t).length ≤ n := by
  have hblank : ∀ u : Text, allBlank u.reverse = allBlank u := fun u => List.all_reverse
  have htrail : (trail t).length = (lead t.reverse).length := List.length_reverse
  rw [htrail, ← forall_prefix_iff]
  constructor
  · intro h u hu hu'
    rw [← List.length_reverse]
    exact h u.reverse (List.reverse_prefix.1 (by simpa using hu)) ((hblank u).trans hu')
  · intro h u hu hu'
    rw [← List.length_reverse]
    exact h u.reverse (List.reverse_prefix.2 hu) ((hblank u).trans hu')

theorem length_toList_getLast? (t : Text) : t.getLast?.toList.length = min 1 t.length := by
  cases t <;> simp [List.getLast?_cons]

theorem length_toList_head? (t : Text) : t.head?.toList.length = min 1 t.length := by
  cases t <;> simp

/-- **When tidying leaves a text as it is**: it neither starts nor ends with two blanks. -/
theorem tidy_eq_self_iff {t : Text} :
    tidy t = t ↔ (lead t).length ≤ 1 ∧ (trail t).length ≤ 1 := by
  by_cases hblank : allBlank t = true
  · -- all of the text is blank, and counts at both ends
    have hlead : lead t = t := List.takeWhile_eq_self_iff.2 (List.all_eq_true.1 hblank)
    have htrail : (trail t).length ≤ t.length := by
      have hprefix : t.reverse.takeWhile isBlank <+: t.reverse := List.takeWhile_prefix _
      simpa [trail] using hprefix.length_le
    rw [tidy, if_pos hblank, hlead, List.take_eq_self_iff]
    omega
  · have hne : strip t ≠ [] := fun h => hblank (strip_eq_nil_iff.1 h)
    obtain ⟨before, behind, h⟩ := exists_framed t
    rw [h.lead_eq hne, h.trail_eq hne, h.tidy_eq hne]
    constructor
    · intro hsame
      have hlength := congrArg List.length (hsame.trans h.eq)
      simp only [List.length_append, length_toList_getLast?, length_toList_head?] at hlength
      omega
    · rintro ⟨hbefore, hbehind⟩
      have hlast : before.getLast?.toList = before := by
        rcases before with _ | ⟨c, _ | ⟨d, rest⟩⟩
        · rfl
        · rfl
        · simp at hbefore
      have hfirst : behind.head?.toList = behind := by
        rw [← List.take_one, List.take_of_length_le hbehind]
      rw [hlast, hfirst, ← h.eq]

end Chunk

/-! ## A page that is one preformatted element -/

namespace Transcript

/-- Inside of a preformatted element that has just started, a text is written as it is. -/
theorem normal_preformatted (o : Options) {tag : Text} (htag : keepsEnds tag.lower = true)
    (attrs : Attributes) (t : Text) : normal o [.start tag attrs] t = t := by
  refine normal_of_governs o ?_ ?_ t
  · simp [governs, lastTag, htag]
  · simp [governs, lastTag, keepsRuns_of_keepsEnds htag]

/-- The chunks of a page that is one preformatted element. -/
theorem page_preformatted {o : Options} {tag : Text} (hlower : tag.lower = tag)
    (htag : keepsEnds tag = true) (hwritten : writesEnd o tag = true) (t : Text) :
    Transcript.page o [.start tag [], .data (some t), .finish tag]
      = [Page.doctype o Page.longDoctype, ['<'], tag, ['>'], t, ['<', '/'], tag, ['>']] := by
  have htext : text o [.data (some t), .start tag []] = t := by
    rw [text, normal_preformatted o (hlower.symm ▸ htag)]
    rfl
  simp [Transcript.page, body, chunks, htext, hwritten, hlower, Run.endTag]

theorem tidy_doctype (o : Options) :
    Chunk.tidy (Page.doctype o Page.longDoctype) = Page.doctype o Page.longDoctype := by
  rw [Page.doctype]
  cases o.useShortDoctype <;> decide +kernel

end Transcript

namespace Session

open Transcript

/-- A page without a fault is answered with its transcript, tidied. -/
theorem answer_of_no_fault {s : Session} {m : Minifier} {events : List Event}
    (hfresh : s.results = []) (hempty : m.settings.options.removeEmptyElements = false)
    (hplain : ∀ e ∈ events, e.startsRaw = false)
    (hok : ∀ e ∈ events, e.fault? m.settings.options = none) (name : Text) (c : Char) (cs : Text) :
    (s.minify name m (some (c :: cs, .ok events))).2.answer
      = .ok (.text (Chunk.page (Transcript.page m.settings.options events))) := by
  have hfault : (Page.minifyEvents s.tools m.settings.options s.service events).fault = none :=
    (minifyEvents_fault_eq_none_iff hempty hplain).2 hok
  rw [minify_answer, hfault, hfresh, List.nil_append, minifyEvents_emitted hempty hplain hfault]

/-- **When preformatted text is kept.**  A page that is one preformatted element or text field is
answered with its text tidied, whatever the blanks are and however they are to be collapsed.  So the
text is kept, character for character, exactly if it neither starts nor ends with two blanks. -/
theorem minify_preformatted_iff (s : Session) (name : Text) (m : Minifier) (c : Char)
    (cs tag t : Text) (hfresh : s.results = [])
    (hempty : m.settings.options.removeEmptyElements = false)
    (htag : tag = "pre" ∨ tag = "textarea") :
    let answer := (s.minify name m
      (some (c :: cs, .ok [.start tag [], .data (some t), .finish tag]))).2.answer
    let page (body : Text) : Text :=
      Page.doctype m.settings.options Page.longDoctype ++
        ('<' :: tag ++ '>' :: body ++ '<' :: '/' :: tag ++ ['>'])
    answer = .ok (.text (page (Chunk.tidy t))) ∧
      (answer = .ok (.text (page t)) ↔
        (∀ u, u <+: t → Text.allBlank u = true → u.length ≤ 1) ∧
          ∀ u, u <:+ t → Text.allBlank u = true → u.length ≤ 1) := by
  intro answer page
  have hanswer : answer = .ok (.text (page (Chunk.tidy t))) := by
    have hlower : tag.lower = tag := by rcases htag with rfl | rfl <;> decide +kernel
    have hkeeps : keepsEnds tag = true := by rcases htag with rfl | rfl <;> decide
    have hplain : Event.startsRaw (.start tag []) = false := by
      rcases htag with rfl | rfl <;> decide +kernel
    have hwritten : writesEnd m.settings.options tag = true := by
      rcases htag with rfl | rfl <;> simp [writesEnd, hasOptionalEnd]
    have htidy : Chunk.tidy tag = tag := by rcases htag with rfl | rfl <;> decide
    have hmarks : Chunk.tidy ['<'] = ['<'] ∧ Chunk.tidy ['>'] = ['>'] ∧
        Chunk.tidy ['<', '/'] = ['<', '/'] := by decide
    show (s.minify name m _).2.answer = _
    rw [answer_of_no_fault hfresh hempty (by simpa [Event.startsRaw] using hplain)
      (by simp [Event.fault?, Run.fragments]), page_preformatted hlower hkeeps hwritten]
    simp [Chunk.page, tidy_doctype, htidy, hmarks, page]
  refine ⟨hanswer, ?_⟩
  have hpage : page (Chunk.tidy t) = page t ↔ Chunk.tidy t = t := by simp [page]
  rw [hanswer, Except.ok.injEq, Answer.text.injEq, hpage, Chunk.tidy_eq_self_iff,
    Chunk.forall_prefix_iff, Chunk.forall_suffix_iff]

/-- A text field keeps a text with one blank at each end and more between. -/
theorem minify_preformatted_iff_textarea :
    let t : Text := " a \n\n b\n"
    (({} : Session).minify "m" {} (some (['x'],
        .ok [.start "textarea" [], .data (some t), .finish "textarea"]))).2.answer
      = .ok (.text "<!DOCTYPE html><textarea> a \n\n b\n</textarea>") := by
  intro t
  have hoptions : ({} : Minifier).settings.options = {} := Settings.options_default
  have hiff := (minify_preformatted_iff {} "m" {} 'x' [] "textarea" t rfl (by rw [hoptions])
    (.inr rfl)).2
  rw [hoptions] at hiff
  refine hiff.2 ⟨?_, ?_⟩
  · rw [Chunk.forall_prefix_iff]
    decide +kernel
  · rw [Chunk.forall_suffix_iff]
    decide +kernel

/-- A preformatted element that starts with an indented line loses the indent, up to one blank. -/
theorem minify_preformatted_indented :
    let events : List Event := [.start "pre" [], .data (some "  a\n  b"), .finish "pre"]
    let answer := (({} : Session).minify "m" {} (some (['x'], .ok events))).2.answer
    answer = .ok (.text "<!DOCTYPE html><pre> a\n  b</pre>") ∧
      answer ≠ .ok (.text "<!DOCTYPE html><pre>  a\n  b</pre>") := by
  intro events answer
  have hanswer : answer = .ok (.text "<!DOCTYPE html><pre> a\n  b</pre>") := by
    have hfault : (Page.minifyEvents {} {} { replies := [] } events).fault = none := by
      decide +kernel
    have hpage : Chunk.page (Page.minifyEvents {} {} { replies := [] } events).emitted
        = "<!DOCTYPE html><pre> a\n  b</pre>".toList := by
      decide +kernel
    show (({} : Session).minify "m" {} (some (['x'], .ok events))).2.answer = _
    rw [minify_answer, show ({} : Minifier).settings.options = {} from Settings.options_default,
      hfault, List.nil_append, hpage]
  refine ⟨hanswer, fun h => ?_⟩
  rw [hanswer, Except.ok.injEq, Answer.text.injEq] at h
  exact absurd h (by decide)

end Session

end PagePress

import PagePress.Proofs.OpenElements

/-!
# A text in pieces

A reader may tell a text in several pieces, and a run that collapses blanks strips each of them for
itself.  So two words that stand in different pieces can become one.  This file says exactly when
they do.

* `openOf_sublist` shows that what keeps the blanks at the ends of a text also keeps its runs of
  blanks, in every run and not only for properly nested events.
* `words_normal` shows that collapsing does no harm to words, so that stripping is all there is to
  look at.
* `words_data_append_iff` puts this together with what `Text.words_strip_append_iff` says of texts.
-/

set_option autoImplicit false

namespace PagePress

namespace Transcript

variable {keeps keeps' : Text → Bool} {past : List Event} {o : Options}

/-- The open elements of a class are among those of a larger class, in the same order.  An end tag
takes off at most the innermost element of each, and if it has the name of the innermost one of the
larger class but not of the smaller, then that one is not in the smaller. -/
theorem openOf_sublist (hclass : ∀ tag, keeps tag = true → keeps' tag = true)
    (past : List Event) : (openOf keeps past).Sublist (openOf keeps' past) := by
  induction past with
  | nil => exact List.Sublist.refl _
  | cons e past ih =>
    cases e with
    | start tag attrs =>
      rw [openOf, openOf]
      by_cases htag : keeps tag.lower = true
      · rw [if_pos htag, if_pos (hclass _ htag)]
        exact ih.cons_cons _
      · rw [if_neg htag]
        split
        · exact ih.cons _
        · exact ih
    | finish tag =>
      rw [openOf, openOf]
      by_cases houter : (openOf keeps' past).head? = some tag
      · rw [if_pos houter]
        obtain ⟨rest, hrest⟩ := List.head?_eq_some_iff.1 houter
        rw [hrest] at ih ⊢
        split
        · rename_i hinner
          obtain ⟨inner, hinner'⟩ := List.head?_eq_some_iff.1 hinner
          rw [hinner'] at ih ⊢
          exact List.cons_sublist_cons.1 ih
        · rename_i hinner
          rcases List.sublist_cons_iff.1 ih with hsub | ⟨inner, heq, -⟩
          · exact hsub
          · rw [heq] at hinner
            exact absurd rfl hinner
      · rw [if_neg houter]
        split
        · exact (List.tail_sublist _).trans ih
        · exact ih
    | data t => exact ih
    | comment t => exact ih

/-- Where a class of elements has a say, so has every larger one. -/
theorem governs_mono (hclass : ∀ tag, keeps tag = true → keeps' tag = true)
    (h : governs keeps past = true) : governs keeps' past = true := by
  rw [governs, Bool.or_eq_true] at h ⊢
  rcases h with hopen | hlast
  · left
    simp only [Bool.not_eq_true', List.isEmpty_eq_false_iff] at hopen ⊢
    intro hnil
    have hsub := openOf_sublist hclass past
    rw [hnil, List.sublist_nil] at hsub
    exact hopen hsub
  · exact .inr (hclass _ hlast)

/-- Where texts are stripped, normalising a part of a text keeps the words that stripping it
leaves. -/
theorem words_normal (hcollapse : o.collapseWhitespace = true)
    (hends : governs keepsEnds past = false) (x t y : Text) :
    Text.words (x ++ normal o past t ++ y) = Text.words (x ++ Text.strip t ++ y) := by
  simp only [normal, hcollapse, hends, if_true, Bool.false_eq_true, if_false]
  split
  · rfl
  · exact Text.words_collapse x _ y

end Transcript

namespace Page

open Transcript

/-- **When it does not matter how a text is cut.**  In every state that a page comes to with blanks
collapsed, two texts leave the same words as the text that they make together, exactly if an element
that keeps the blanks at its ends is open or was started last, or one of the texts is blank, or no
blank stands where they meet. -/
theorem words_data_append_iff (tools : Tools) (o : Options) (s : Service) (events : List Event)
    (t u : Text) (hcollapse : o.collapseWhitespace = true)
    (hok : ((opening o).feed tools o s events).fault = none) :
    let r := ((opening o).feed tools o s events).run
    Text.words ((r.data o (some t)).data o (some u)).pending
        = Text.words (r.data o (some (t ++ u))).pending ↔
      governs keepsEnds events.reverse = true ∨ Text.allBlank t = true ∨ Text.allBlank u = true ∨
        (∀ c ∈ t.getLast?, isBlank c = false) ∧ ∀ c ∈ u.head?, isBlank c = false := by
  intro r
  have hknows : Knows o events.reverse r := feed_knows hok
  have htwo : ((r.data o (some t)).data o (some u)).pending
      = r.pending ++ normal o events.reverse t ++ normal o events.reverse u := by
    rw [← hknows.normalize_eq, ← hknows.normalize_eq]
    rfl
  rw [htwo, hknows.data_eq]
  cases hends : governs keepsEnds events.reverse with
  | true =>
    have hruns := governs_mono (fun _ => keepsRuns_of_keepsEnds) hends
    rw [normal_of_governs o hends hruns, normal_of_governs o hends hruns,
      normal_of_governs o hends hruns, List.append_assoc]
    simp
  | false =>
    have hone := words_normal hcollapse hends r.pending (t ++ u) []
    have hlast := words_normal hcollapse hends (r.pending ++ normal o events.reverse t) u []
    rw [List.append_nil, List.append_nil] at hone hlast
    rw [hone, hlast, words_normal hcollapse hends, Text.words_strip_append_iff]
    simp

/-- Two pieces of one word, after an element whose blanks mean something. -/
theorem words_data_append_iff_word :
    let events : List Event := [.start "div" [], .start "PRE" [], .finish "pre", .start "b" []]
    let r := ((opening {}).feed {} {} { replies := [] } events).run
    ((opening {}).feed {} {} { replies := [] } events).fault = none ∧
      Text.words ((r.data {} (some " a b")).data {} (some "c ")).pending
        = Text.words (r.data {} (some (" a b" ++ "c "))).pending := by
  intro events r
  have hok : ((opening {}).feed {} {} { replies := [] } events).fault = none := by decide +kernel
  have hleft : ∀ c ∈ (" a b" : Text).getLast?, isBlank c = false := by
    rintro c ⟨⟩
    decide
  have hright : ∀ c ∈ ("c " : Text).head?, isBlank c = false := by
    rintro c ⟨⟩
    decide
  exact ⟨hok, (words_data_append_iff {} {} { replies := [] } events " a b" "c " rfl hok).2
    (.inr (.inr (.inr ⟨hleft, hright⟩)))⟩

/-- A blank between two pieces is lost, and two words become one. -/
theorem words_data_append_ne :
    let r := ((opening {}).feed {} {} { replies := [] } [.start "p" []]).run
    ((opening {}).feed {} {} { replies := [] } [.start "p" []]).fault = none ∧
      Text.words ((r.data {} (some "a ")).data {} (some "b")).pending = [("ab" : Text)] ∧
      Text.words (r.data {} (some ("a " ++ "b"))).pending = [("a" : Text), "b"] := by
  decide +kernel

end Page

end PagePress

import PagePress.Proofs.Course

/-!
# Comments that are erased

A comment that is removed is not gone: it leaves an empty chunk among those that wait.  This file
shows that nobody can tell.  Nothing that a run does depends on its empty chunks, not even the
search for the start tag of an empty element, and a page is made of the other chunks alone.

* `Chunk.solid` are the chunks that are not empty.
* `Run.Alike` and `Step.Alike` say that two runs, or what they give, differ in empty chunks only.
  Every event keeps that (`Alike.step`), and a comment that is erased makes no other difference
  (`Alike.comment_left`).
* `Alike.feed_erase` compares a whole run with that over the other events, and `minify_erase` does
  so for a page.
-/

set_option autoImplicit false

namespace PagePress

open Transcript

/-- Comments that are not conditional. -/
def Event.isOrdinaryComment : Event → Bool
  | .comment t => !Comment.isConditional t
  | _ => false

/-- The events without the comments that are not conditional. -/
def Event.erase (events : List Event) : List Event := events.filter (!·.isOrdinaryComment)

/-! ## Empty chunks -/

namespace Chunk

/-- The chunks that are not empty. -/
def solid (cs : List Text) : List Text := cs.filter (!·.isEmpty)

theorem solid_append (cs ds : List Text) : solid (cs ++ ds) = solid cs ++ solid ds :=
  List.filter_append cs ds

theorem solid_reverse (cs : List Text) : solid cs.reverse = (solid cs).reverse :=
  List.filter_reverse

theorem solid_cons_nil (cs : List Text) : solid ([] :: cs) = solid cs := rfl

theorem solid_cons_of_ne_nil {c : Text} (h : c ≠ []) (cs : List Text) :
    solid (c :: cs) = c :: solid cs :=
  List.filter_cons_of_pos (by simpa using h)

/-- A page is made of the chunks that are not empty. -/
theorem page_solid (cs : List Text) : page (solid cs) = page cs := by
  induction cs with
  | nil => rfl
  | cons c cs ih =>
    by_cases h : c = []
    · subst h
      exact ih
    · rw [solid_cons_of_ne_nil h, page, page, List.flatMap_cons, List.flatMap_cons]
      exact congrArg _ ih

end Chunk

open Chunk

/-- The search for the last chunk that opens a tag passes over empty chunks. -/
theorem Run.fromLastOpening?_solid (cs : List Text) :
    fromLastOpening? (solid cs) = (fromLastOpening? cs).map solid := by
  induction cs with
  | nil => rfl
  | cons c cs ih =>
    by_cases h : c = []
    · subst h
      rw [solid_cons_nil, ih, fromLastOpening?]
      cases fromLastOpening? cs <;> rfl
    · rw [solid_cons_of_ne_nil h, fromLastOpening?, fromLastOpening?, ih]
      cases fromLastOpening? cs with
      | some tail => rfl
      | none =>
        by_cases hmark : c = ['<']
        · subst hmark
          rfl
        · simp [hmark]

/-! ## Runs that differ in empty chunks -/

/-- The run `r'` differs from `r` in empty chunks only. -/
def Run.Alike (r r' : Run) : Prop :=
  ∃ cs, r' = { r with chunks := cs } ∧ solid cs = solid r.chunks

/-- What two runs gave differs in empty chunks only. -/
structure Step.Alike (first second : Step) : Prop where
  run : first.run.Alike second.run
  service : second.service = first.service
  emitted : solid second.emitted = solid first.emitted
  fault : second.fault = first.fault

variable {tools : Tools} {o : Options} {r r' : Run} {s : Service}

namespace Run

theorem Alike.refl (r : Run) : r.Alike r := ⟨r.chunks, rfl, rfl⟩

theorem Alike.write (h : r.Alike r') (cs : List Text) : (r.write cs).Alike (r'.write cs) := by
  obtain ⟨ds, rfl, hds⟩ := h
  exact ⟨ds ++ cs, rfl, by rw [solid_append, hds, ← solid_append]; rfl⟩

/-- A comment that is erased leaves an empty chunk, and nothing else. -/
theorem Alike.comment_left (h : r.Alike r') (hremove : o.removeComments = true) {t : Text}
    (ht : Comment.isConditional t = false) : (r.comment o t).Alike r' := by
  obtain ⟨cs, rfl, hcs⟩ := h
  refine ⟨cs, rfl, ?_⟩
  have hchunk : Comment.chunk o t = [] := by simp [Comment.chunk, hremove, ht]
  show solid cs = solid (r.chunks ++ [Comment.chunk o t])
  rw [hchunk, solid_append, hcs]
  exact (List.append_nil _).symm

theorem Alike.start (h : r.Alike r') (tag : Text) (attrs : Attributes) :
    (r.start o tag attrs).1.Alike (r'.start o tag attrs).1 ∧
      (r'.start o tag attrs).2 = (r.start o tag attrs).2 := by
  have henter : (r.enter o tag.lower attrs).Alike (r'.enter o tag.lower attrs) := by
    obtain ⟨cs, rfl, hcs⟩ := h
    exact ⟨cs, rfl, hcs⟩
  rw [Run.start, Run.start]
  rcases fragments o tag.lower attrs with ⟨texts, _ | fault⟩
  · exact ⟨henter.write _, rfl⟩
  · exact ⟨henter.write _, rfl⟩

/-- An end tag finds the same to do in runs that are alike: the chunks it goes on with are alike,
too. -/
theorem Alike.close (h : r.Alike r') (s : Service) (tag : Text) :
    (r.close o s tag).Alike (r'.close o s tag) := by
  obtain ⟨cs, rfl, hcs⟩ := h
  rw [Run.close, Run.close, closing, closing]
  dsimp only
  cases o.removeEmptyElements && r.pending.isEmpty && tag == r.tag && isRemovable tag with
  | true =>
    -- the element is empty and to be removed
    have hsearch : (fromLastOpening? cs).map solid = (fromLastOpening? r.chunks).map solid := by
      rw [← fromLastOpening?_solid, hcs, fromLastOpening?_solid]
    cases htail : fromLastOpening? r.chunks with
    | none =>
      rw [htail, Option.map_none, Option.map_eq_none_iff] at hsearch
      have hreverse : solid cs.reverse = solid r.chunks.reverse := by
        rw [solid_reverse, hcs, ← solid_reverse]
      rw [hsearch]
      exact ⟨⟨cs.reverse, rfl, hreverse⟩, rfl, rfl, rfl⟩
    | some tail =>
      rw [htail, Option.map_some, Option.map_eq_some_iff] at hsearch
      obtain ⟨tail', htail', hsolid⟩ := hsearch
      rw [htail']
      exact ⟨⟨tail', rfl, hsolid⟩, rfl, rfl, rfl⟩
  | false =>
    cases o.removeOptionalTags && hasOptionalEnd tag with
    | true => exact ⟨⟨cs, rfl, hcs⟩, rfl, rfl, rfl⟩
    | false =>
      refine ⟨⟨[], rfl, rfl⟩, rfl, ?_, rfl⟩
      show solid (cs ++ endTag tag) = solid (r.chunks ++ endTag tag)
      rw [solid_append, hcs, ← solid_append]

theorem Alike.finish (h : r.Alike r') (tools : Tools) (s : Service) (tag : Text) :
    (r.finish tools o s tag).Alike (r'.finish tools o s tag) := by
  have htext : r'.closingText tools o s = r.closingText tools o s := by
    obtain ⟨cs, rfl, -⟩ := h
    rfl
  rw [Run.finish, Run.finish, htext]
  rcases r.closingText tools o s with ⟨fault | text, s'⟩
  · exact ⟨h, rfl, rfl, rfl⟩
  · refine Alike.close ?_ s' tag
    obtain ⟨cs, rfl, hcs⟩ := h
    refine ⟨cs ++ [text], rfl, ?_⟩
    show solid (cs ++ [text]) = solid (r.chunks ++ [text])
    rw [solid_append, hcs, ← solid_append]

/-- **Every event keeps runs alike.** -/
theorem Alike.step (h : r.Alike r') (tools : Tools) (s : Service) (e : Event) :
    (r.step tools o s e).Alike (r'.step tools o s e) := by
  cases e with
  | start tag attrs =>
    obtain ⟨hrun, hfault⟩ := h.start (o := o) tag attrs
    exact ⟨hrun, rfl, rfl, hfault⟩
  | finish tag => exact h.finish tools s tag
  | data t =>
    refine ⟨?_, rfl, rfl, rfl⟩
    obtain ⟨cs, rfl, hcs⟩ := h
    cases t with
    | none => exact ⟨cs, rfl, hcs⟩
    | some t => exact ⟨cs, rfl, hcs⟩
  | comment t => exact ⟨h.write _, rfl, rfl, rfl⟩

/-! ## Whole runs -/

/-- **A run cannot tell whether comments were erased before.** -/
theorem Alike.feed_erase (h : r.Alike r') (hremove : o.removeComments = true) (tools : Tools)
    (s : Service) (events : List Event) :
    (r.feed tools o s events).Alike (r'.feed tools o s (Event.erase events)) := by
  induction events generalizing r r' s with
  | nil => exact ⟨h, rfl, rfl, rfl⟩
  | cons e es ih =>
    by_cases he : e.isOrdinaryComment = true
    · -- one run takes a step for the comment, and the other none
      obtain ⟨t, rfl, ht⟩ : ∃ t, e = .comment t ∧ Comment.isConditional t = false := by
        cases e with
        | comment t => exact ⟨t, rfl, by simpa [Event.isOrdinaryComment] using he⟩
        | start tag attrs => cases he
        | finish tag => cases he
        | data t => cases he
      have hskip : Event.erase (.comment t :: es) = Event.erase es :=
        List.filter_cons_of_neg (by simp [he])
      rw [hskip, feed_cons_of_no_fault rfl]
      exact ih (h.comment_left hremove ht) s
    · have hkeep : Event.erase (e :: es) = e :: Event.erase es :=
        List.filter_cons_of_pos (by simp [he])
      have hstep := h.step (o := o) tools s e
      rw [hkeep]
      cases hfault : (r.step tools o s e).fault with
      | some fault =>
        rw [feed_cons_of_fault hfault, feed_cons_of_fault (hstep.fault.trans hfault)]
        exact ⟨hstep.run, hstep.service, hstep.emitted, hstep.fault⟩
      | none =>
        have hrest := ih hstep.run (r.step tools o s e).service
        rw [feed_cons_of_no_fault hfault, feed_cons_of_no_fault (hstep.fault.trans hfault),
          hstep.service]
        refine ⟨hrest.run, hrest.service, ?_, hrest.fault⟩
        rw [solid_append, hstep.emitted, hrest.emitted, ← solid_append]

end Run

namespace Page

theorem alike_flush {first second : Step} (h : first.Alike second) :
    (flush first).Alike (flush second) := by
  cases hfault : first.fault with
  | some fault =>
    rw [flush_of_fault hfault, flush_of_fault (h.fault.trans hfault)]
    exact h
  | none =>
    obtain ⟨cs, hrun, hcs⟩ := h.run
    rw [flush, flush]
    simp only [hfault, h.fault.trans hfault]
    refine ⟨⟨[], by rw [hrun], rfl⟩, h.service, ?_, rfl⟩
    rw [solid_append, h.emitted, hrun, hcs, ← solid_append]

end Page

namespace Session

/-- **Ordinary comments are erased without a trace.**  Where comments are removed, and whatever the
other options are, a page is answered as the page without its ordinary comments is: with the same
text, or with the same fault.  The compile service is asked the same, and the two pages leave the
same results but for empty chunks. -/
theorem minify_erase (s : Session) (name : Text) (m : Minifier) (c c' : Char) (cs cs' : Text)
    (events : List Event) (hremove : m.settings.options.removeComments = true) :
    let whole := s.minify name m (some (c :: cs, .ok events))
    let erased := s.minify name m (some (c' :: cs', .ok (Event.erase events)))
    erased.2.answer = whole.2.answer ∧ erased.1.service = whole.1.service ∧
      solid erased.1.results = solid whole.1.results := by
  intro whole erased
  have h := Page.alike_flush ((Run.Alike.refl (Page.opening m.settings.options)).feed_erase hremove
    s.tools s.service events)
  have hresults : solid erased.1.results = solid whole.1.results := by
    show solid (s.results ++ _) = solid (s.results ++ _)
    rw [solid_append, solid_append]
    exact congrArg _ h.emitted
  refine ⟨?_, h.service, hresults⟩
  have hpage : Chunk.page erased.1.results = Chunk.page whole.1.results := by
    rw [← page_solid, hresults, page_solid]
  have hfault : (Page.minifyEvents s.tools m.settings.options s.service (Event.erase events)).fault
      = (Page.minifyEvents s.tools m.settings.options s.service events).fault := h.fault
  rw [minify_results, minify_results] at hpage
  rw [minify_answer, minify_answer, hfault, hpage]

/-- A page with comments around, inside and behind empty elements that are removed.  Of the two
comments that say a condition, one says more and is erased. -/
theorem minify_erase_conditional :
    let m : Minifier :=
      { settings := Settings.default.update [("removeEmptyElements", .flag true)] }
    let page : List Event := [.comment "a", .start "p" [], .comment "[if IE]>b", .start "i" [],
      .comment "c", .finish "i", .comment "[if IE]", .data (some "d"), .comment "", .finish "p"]
    let kept : List Event := [.start "p" [], .start "i" [], .finish "i", .comment "[if IE]",
      .data (some "d"), .finish "p"]
    m.settings.options = { removeEmptyElements := true } ∧ Event.erase page = kept ∧
      (({} : Session).minify "m" m (some (['x'], .ok kept))).2.answer
        = (({} : Session).minify "m" m (some (['x'], .ok page))).2.answer := by
  intro m page kept
  have hoptions : m.settings.options = { removeEmptyElements := true } := by decide +kernel
  have hkept : Event.erase page = kept := by decide +kernel
  have h := minify_erase {} "m" m 'x' 'x' [] [] page (by rw [hoptions])
  rw [hkept] at h
  exact ⟨hoptions, hkept, h.1⟩

end Session

end PagePress

import PagePress.Proofs.Transcript

/-!
# Leaving out implied end tags

One would expect that a page with its implied end tags left out is the page with all end tags, less
the three chunks of each implied one.  This file says exactly when that is so.

An end tag that is left out still writes the text before it, but does not forget it, so that an end
tag right after it writes the text once more.  `again` is the text that is written once more, and
`text_omitEnds` splits the text of an end tag into that and the text that is new.  What
`emitted_omitEnds_iff` finds is that the two pages agree if and only if no end tag that is left out
has a text of its own and an end tag as the next tag after it.

`withoutImplied` deletes the chunks of implied end tags from a finished page; it finds them by
counting, with `Transcript.parcels`.
-/

set_option autoImplicit false

namespace PagePress

/-- The options with implied end tags left out, or with all of them written. -/
def Options.omitEnds (o : Options) (on : Bool) : Options := { o with removeOptionalTags := on }

namespace Transcript

variable (o : Options)

/-! ## What the option does not change -/

theorem writesEnd_omitEnds (on : Bool) (tag : Text) :
    writesEnd (o.omitEnds on) tag = !(on && hasOptionalEnd tag) := rfl

theorem fault?_omitEnds (on : Bool) (e : Event) : e.fault? (o.omitEnds on) = e.fault? o := by
  have hfragments : ∀ (tag : Text) (attrs : Attributes),
      Run.fragments (o.omitEnds on) tag attrs = Run.fragments o tag attrs := by
    intro tag attrs
    induction attrs with
    | nil => rfl
    | cons a rest ih => rw [Run.fragments, Run.fragments, ih]; rfl
  cases e with
  | start tag attrs => rw [Event.fault?, Event.fault?, hfragments]
  | finish tag => rfl
  | data t => rfl
  | comment t => rfl

/-! ## Texts that are written again -/

/-- The text that an end tag writes although one before it has written it: all of the text of the
end tag before, if that was left out and no other tag has come since. -/
def again : List Event → Text
  | [] => []
  | .start _ _ :: _ => []
  | .finish tag :: past => if hasOptionalEnd tag then text (o.omitEnds true) past else []
  | _ :: past => again past

/-- Behind what it writes again, an end tag writes the text that came since the last tag. -/
theorem text_omitEnds (past : List Event) :
    text (o.omitEnds true) past = again o past ++ text (o.omitEnds false) past := by
  induction past with
  | nil => rfl
  | cons e past ih =>
    cases e with
    | start tag attrs => rfl
    | finish tag =>
      by_cases ht : hasOptionalEnd tag = true
      · simp [text, again, writesEnd_omitEnds, ht]
      · simp [text, again, writesEnd_omitEnds, ht]
    | data t =>
      cases t with
      | none => exact ih
      | some t =>
        show text (o.omitEnds true) past ++ normal o past t
          = again o past ++ (text (o.omitEnds false) past ++ normal o past t)
        rw [ih, List.append_assoc]
    | comment t => exact ih

variable {o}

/-- Only an end tag writes a text again, so that it can be asked at any place before one. -/
theorem again_eq_nil_of_endsNext {events : List Event}
    (h : ∀ before tag after, events = before ++ .finish tag :: after → again o before.reverse = [])
    {after : List Event} (hends : endsNext after = true) :
    ∀ before, events = before ++ after → again o before.reverse = [] := by
  induction after with
  | nil => cases hends
  | cons e after ih =>
    intro before hsplit
    have hnext := fun hends => ih hends (before ++ [e]) (by simpa using hsplit)
    rw [List.reverse_append] at hnext
    cases e with
    | start tag attrs => cases hends
    | finish tag => exact h before tag after hsplit
    | data t => exact hnext hends
    | comment t => exact hnext hends

/-- If every end tag that is left out and followed by another has no text of its own, nothing is
ever written again.  The induction goes back over the past: what an end tag writes again is what
the one before it wrote, and that was neither again nor new. -/
theorem again_eq_nil_of_texts {events : List Event}
    (h : ∀ before tag after, events = before ++ .finish tag :: after → hasOptionalEnd tag = true →
      endsNext after = true → text (o.omitEnds false) before.reverse = [])
    {past : List Event} :
    ∀ after, events = past.reverse ++ after → endsNext after = true → again o past = [] := by
  induction past with
  | nil => intro after _ _; rfl
  | cons e past ih =>
    intro after hsplit hends
    have hprev : events = past.reverse ++ e :: after := by simpa using hsplit
    cases e with
    | start tag attrs => rfl
    | finish tag =>
      by_cases ht : hasOptionalEnd tag = true
      · have hnew := h past.reverse tag after hprev ht hends
        rw [List.reverse_reverse] at hnew
        rw [again, if_pos ht, text_omitEnds, ih _ hprev rfl, hnew]
        rfl
      · rw [again, if_neg ht]
    | data t => exact ih _ hprev hends
    | comment t => exact ih _ hprev hends

theorem again_eq_nil_iff {events : List Event} :
    (∀ before tag after, events = before ++ .finish tag :: after → again o before.reverse = []) ↔
      ∀ before tag after, events = before ++ .finish tag :: after → hasOptionalEnd tag = true →
        endsNext after = true → text (o.omitEnds false) before.reverse = [] := by
  constructor
  · intro h before tag after hsplit ht hends
    have hagain :=
      again_eq_nil_of_endsNext h hends (before ++ [.finish tag]) (by simpa using hsplit)
    have htext : text (o.omitEnds true) before.reverse = [] := by simpa [again, ht] using hagain
    rw [text_omitEnds] at htext
    exact (List.append_eq_nil_iff.1 htext).2
  · intro h before tag after hsplit
    exact again_eq_nil_of_texts h _ (by simpa using hsplit) rfl

/-! ## Deleting implied end tags -/

/-- The chunks of an event, without those of an end tag that can be implied. -/
def dropImplied : Event × List Text → List Text
  | (.finish tag, cs) => if hasOptionalEnd tag then cs.take 1 else cs
  | (_, cs) => cs

/-- The chunks of a page with all its end tags, without those of the end tags that can be implied.
The document type is the first chunk. -/
def withoutImplied (o : Options) (events : List Event) (cs : List Text) : List Text :=
  cs.take 1 ++ (parcels (o.omitEnds false) events (cs.drop 1)).flatMap dropImplied

variable (o)

/-- An event makes the same chunks either way, unless it is an end tag with something to write
again. -/
theorem chunks_omitEnds_iff (past : List Event) (e : Event) :
    chunks (o.omitEnds true) past e = dropImplied (e, chunks (o.omitEnds false) past e) ↔
      ∀ tag, e = .finish tag → again o past = [] := by
  cases e with
  | start tag attrs =>
    refine ⟨fun _ tag h => ?_, fun _ => rfl⟩
    cases h
  | finish tag =>
    have htext :
        text (o.omitEnds true) past = text (o.omitEnds false) past ↔ again o past = [] := by
      rw [text_omitEnds, List.append_left_eq_self]
    by_cases ht : hasOptionalEnd tag = true
    · simp [chunks, dropImplied, writesEnd_omitEnds, ht, htext]
    · simp [chunks, dropImplied, writesEnd_omitEnds, ht, htext]
  | data t =>
    refine ⟨fun _ tag h => ?_, fun _ => rfl⟩
    cases h
  | comment t =>
    refine ⟨fun _ tag h => ?_, fun _ => rfl⟩
    cases h

theorem length_dropImplied (past : List Event) (e : Event) :
    (chunks (o.omitEnds true) past e).length
      = (dropImplied (e, chunks (o.omitEnds false) past e)).length := by
  cases e with
  | start tag attrs => rfl
  | finish tag =>
    by_cases ht : hasOptionalEnd tag = true
    · simp [chunks, dropImplied, writesEnd_omitEnds, ht]
    · simp [chunks, dropImplied, writesEnd_omitEnds, ht]
  | data t => rfl
  | comment t => rfl

/-- Since every event makes as many chunks either way, events make the same chunks exactly if each
of them does. -/
theorem body_omitEnds_iff (past events : List Event) :
    body (o.omitEnds true) past events
        = (parcels (o.omitEnds false) events (body (o.omitEnds false) past events)).flatMap
          dropImplied ↔
      ∀ before e after, events = before ++ e :: after →
        ∀ tag, e = .finish tag → again o (before.reverse ++ past) = [] := by
  induction events generalizing past with
  | nil => simp [body, parcels]
  | cons e es ih =>
    rw [forall_split_cons, parcels_body_cons, List.flatMap_cons, body]
    constructor
    · intro h
      obtain ⟨hhead, htail⟩ := List.append_inj h (length_dropImplied o past e)
      refine ⟨(chunks_omitEnds_iff o past e).1 hhead, fun before y after hes => ?_⟩
      simpa using (ih (e :: past)).1 htail before y after hes
    · rintro ⟨hhead, htail⟩
      rw [(chunks_omitEnds_iff o past e).2 hhead]
      refine congrArg _ ((ih (e :: past)).2 fun before y after hes => ?_)
      simpa using htail before y after hes

end Transcript

/-! ## When leaving out is only leaving out -/

namespace Page

open Transcript

/-- **Leaving out implied end tags only leaves them out, exactly if no text is left to be written
again.**  The page without implied end tags is the page with all of them, less the three chunks of
each implied one, if and only if no end tag that can be implied has both a text since the tag before
it and an end tag as the next tag after it. -/
theorem emitted_omitEnds_iff (tools : Tools) (o : Options) (s : Service) (events : List Event)
    (hempty : o.removeEmptyElements = false) (hplain : ∀ e ∈ events, e.startsRaw = false)
    (hok : (minifyEvents tools o s events).fault = none) :
    (minifyEvents tools (o.omitEnds true) s events).fault = none ∧
      (minifyEvents tools (o.omitEnds false) s events).fault = none ∧
      ((minifyEvents tools (o.omitEnds true) s events).emitted
          = withoutImplied o events (minifyEvents tools (o.omitEnds false) s events).emitted ↔
        ∀ before tag after, events = before ++ .finish tag :: after → hasOptionalEnd tag = true →
          endsNext after = true → text (o.omitEnds false) before.reverse = []) := by
  have hevents := (minifyEvents_fault_eq_none_iff hempty hplain).1 hok
  have hfault : ∀ on, (minifyEvents tools (o.omitEnds on) s events).fault = none := by
    intro on
    refine (minifyEvents_fault_eq_none_iff (o := o.omitEnds on) hempty hplain).2 ?_
    intro e he
    rw [fault?_omitEnds]
    exact hevents e he
  refine ⟨hfault true, hfault false, ?_⟩
  rw [minifyEvents_emitted (o := o.omitEnds true) hempty hplain (hfault true),
    minifyEvents_emitted (o := o.omitEnds false) hempty hplain (hfault false), ← again_eq_nil_iff]
  show _ :: body (o.omitEnds true) [] events = _ :: _ ↔ _
  rw [List.cons.injEq]
  constructor
  · rintro ⟨-, hbody⟩ before tag after hsplit
    have hagain := (body_omitEnds_iff o [] events).1 hbody before _ after hsplit tag rfl
    rwa [List.append_nil] at hagain
  · intro h
    refine ⟨rfl, (body_omitEnds_iff o [] events).2 fun before e after hsplit tag he => ?_⟩
    rw [List.append_nil]
    exact h before tag after (he ▸ hsplit)

/-- The condition holds of a table, whose rows have no text of their own. -/
theorem emitted_omitEnds_table :
    let events : List Event :=
      [.start "table" [], .start "tr" [], .start "td" [], .data (some "a"), .finish "td",
        .finish "tr", .data (some " "), .finish "table"]
    (∀ e ∈ events, e.startsRaw = false) ∧
      ∀ before tag after, events = before ++ .finish tag :: after → hasOptionalEnd tag = true →
        endsNext after = true → text (({} : Options).omitEnds false) before.reverse = [] := by
  intro events
  have hplain : ∀ e ∈ events, e.startsRaw = false := by decide +kernel
  have hok : (minifyEvents {} {} { replies := [] } events).fault = none := by decide +kernel
  have hiff := (emitted_omitEnds_iff {} {} { replies := [] } events rfl hplain hok).2.2
  exact ⟨hplain, hiff.1 (by decide +kernel)⟩

/-- It fails of a choice: the text of its last option is written again at its end. -/
theorem emitted_omitEnds_select :
    let events : List Event :=
      [.start "select" [], .start "option" [], .data (some "a"), .finish "option",
        .finish "select"]
    (∀ e ∈ events, e.startsRaw = false) ∧
      (minifyEvents {} (({} : Options).omitEnds true) { replies := [] } events).fault = none ∧
      (minifyEvents {} (({} : Options).omitEnds true) { replies := [] } events).emitted
        ≠ withoutImplied {} events
          (minifyEvents {} (({} : Options).omitEnds false) { replies := [] } events).emitted := by
  intro events
  exact ⟨by decide +kernel, by decide +kernel, by decide +kernel⟩

end Page

end PagePress

import PagePress.Proofs.ImpliedEnds
import PagePress.Proofs.Ink
import PagePress.Proofs.OpenElements

/-!
# Which texts survive

Text waits in a run until an end tag writes it, and a start tag forgets it.  So a text is lost if
the next tag after it is a start tag, or if there is none.  This file makes that exact.

* `dataInk` is the ink of all texts that go into a page, and `endInk` the ink of those that its end
  tags wrote, read off the finished chunks.
* `keptInk` is the ink of the texts whose next tag is an end tag.  It always comes out
  (`keptInk_sublist`), and nothing else does where every end tag is written (`keptInk_eq`).
* `dataInk_sublist_iff` puts this together, and says in which arrangements of events all texts
  survive whatever they are: those in which the next tag after every text is an end tag.
-/

set_option autoImplicit false

namespace PagePress

/-- The event without its text. -/
def Event.mute : Event → Event
  | .data _ => .data none
  | e => e

/-- The ink of the text of an event. -/
def Event.ink : Event → Text
  | .data (some t) => Text.ink t
  | _ => []

namespace Transcript

/-- The ink of the texts of events. -/
def dataInk (events : List Event) : Text := events.flatMap Event.ink

/-- The text that an event wrote, if it is an end tag. -/
def endText? : Event × List Text → Option Text
  | (.finish _, cs) => cs.head?
  | _ => none

/-- The ink of the texts that the end tags of a page wrote, found in its chunks.  The document type
is the first chunk. -/
def endInk (o : Options) (events : List Event) (cs : List Text) : Text :=
  ((parcels o events (cs.drop 1)).filterMap endText?).flatMap Text.ink

/-- The ink of the texts with an end tag as the next tag after them. -/
def keptInk : List Event → Text
  | [] => []
  | e :: es => (if endsNext es then e.ink else []) ++ keptInk es

/-- Of events, only blank texts are lost: any other has an end tag as the next tag after it. -/
def LosesBlanksOnly (events : List Event) : Prop :=
  ∀ before t after, events = before ++ .data (some t) :: after → endsNext after = false →
    Text.allBlank t = true

/-! ## The ink of end tags -/

/-- The ink of the texts that end tags write after a past. -/
def writtenInk (o : Options) (past events : List Event) : Text :=
  ((parcels o events (body o past events)).filterMap endText?).flatMap Text.ink

variable {o : Options}

theorem writtenInk_finish (past : List Event) (tag : Text) (es : List Event) :
    writtenInk o past (.finish tag :: es)
      = Text.ink (text o past) ++ writtenInk o (.finish tag :: past) es := by
  rw [writtenInk, parcels_body_cons]
  rfl

theorem writtenInk_cons {e : Event} (he : ∀ tag, e ≠ .finish tag) (past es : List Event) :
    writtenInk o past (e :: es) = writtenInk o (e :: past) es := by
  rw [writtenInk, parcels_body_cons]
  cases e with
  | finish tag => exact absurd rfl (he tag)
  | start tag attrs => rfl
  | data t => rfl
  | comment t => rfl

theorem writtenInk_append (past es fs : List Event) :
    writtenInk o past (es ++ fs)
      = writtenInk o past es ++ writtenInk o (es.reverse ++ past) fs := by
  induction es generalizing past with
  | nil => rfl
  | cons e es ih =>
    rw [List.reverse_cons, List.append_assoc, List.singleton_append, List.cons_append]
    by_cases he : ∃ tag, e = .finish tag
    · obtain ⟨tag, rfl⟩ := he
      rw [writtenInk_finish, writtenInk_finish, ih, List.append_assoc]
    · have he' : ∀ tag, e ≠ .finish tag := fun tag h => he ⟨tag, h⟩
      rw [writtenInk_cons he', writtenInk_cons he', ih]

theorem ink_normal (o : Options) (past : List Event) (t : Text) :
    Text.ink (normal o past t) = Text.ink t := by
  have hstrip : Text.ink (if governs keepsEnds past then t else Text.strip t) = Text.ink t := by
    split
    · rfl
    · exact Text.ink_strip t
  rw [normal]
  split
  · dsimp only
    split
    · exact hstrip
    · rw [Text.ink_collapse, hstrip]
  · rfl

/-- The ink that waits for an end tag grows by the ink of every event that is no tag. -/
theorem ink_text_cons {e : Event} (past : List Event) (hstart : ∀ tag attrs, e ≠ .start tag attrs)
    (hfinish : ∀ tag, e ≠ .finish tag) :
    Text.ink (text o (e :: past)) = Text.ink (text o past) ++ e.ink := by
  cases e with
  | start tag attrs => exact absurd rfl (hstart tag attrs)
  | finish tag => exact absurd rfl (hfinish tag)
  | data t =>
    cases t with
    | none => simp [text, Event.ink]
    | some t => rw [text, Text.ink_append, ink_normal, Event.ink]
  | comment t => simp [text, Event.ink]

/-! ## What comes out

After a past, the ink that is to come out is what waits for an end tag, if that is the next tag, and
what is kept of the events to come. -/

/-- The ink that is to come out of events after a past. -/
def dueInk (o : Options) (past events : List Event) : Text :=
  (if endsNext events then Text.ink (text o past) else []) ++ keptInk events

theorem dueInk_finish (past : List Event) (tag : Text) (es : List Event) :
    dueInk o past (.finish tag :: es) = Text.ink (text o past) ++ keptInk es := by
  simp [dueInk, endsNext, keptInk, Event.ink]

theorem dueInk_cons {e : Event} (he : ∀ tag, e ≠ .finish tag) (past es : List Event) :
    dueInk o past (e :: es) = dueInk o (e :: past) es := by
  by_cases hstart : ∃ tag attrs, e = .start tag attrs
  · obtain ⟨tag, attrs, rfl⟩ := hstart
    simp [dueInk, endsNext, keptInk, Event.ink, text]
  · have hstart' : ∀ tag attrs, e ≠ .start tag attrs := fun tag attrs h => hstart ⟨tag, attrs, h⟩
    have hends : endsNext (e :: es) = endsNext es := by
      cases e with
      | start tag attrs => exact absurd rfl (hstart' tag attrs)
      | finish tag => exact absurd rfl (he tag)
      | data t => rfl
      | comment t => rfl
    rw [dueInk, dueInk, hends, keptInk, ink_text_cons past hstart' he]
    cases endsNext es <;> simp

/-- **What is kept comes out**, in order.  Only an end tag writes; a text that it does not forget
may come out once more, but never out of order. -/
theorem dueInk_sublist (past events : List Event) :
    (dueInk o past events).Sublist (writtenInk o past events) := by
  induction events generalizing past with
  | nil => exact List.Sublist.refl _
  | cons e es ih =>
    by_cases he : ∃ tag, e = .finish tag
    · obtain ⟨tag, rfl⟩ := he
      rw [dueInk_finish, writtenInk_finish]
      refine (List.Sublist.refl _).append ?_
      exact (List.sublist_append_right _ _).trans (ih (.finish tag :: past))
    · have he' : ∀ tag, e ≠ .finish tag := fun tag h => he ⟨tag, h⟩
      rw [dueInk_cons he', writtenInk_cons he']
      exact ih (e :: past)

/-- Where every end tag is written, nothing else comes out. -/
theorem dueInk_eq {events : List Event}
    (hwritten : ∀ tag, .finish tag ∈ events → writesEnd o tag = true) (past : List Event) :
    dueInk o past events = writtenInk o past events := by
  induction events generalizing past with
  | nil => rfl
  | cons e es ih =>
    have hrest := ih fun tag htag => hwritten tag (List.mem_cons_of_mem _ htag)
    by_cases he : ∃ tag, e = .finish tag
    · obtain ⟨tag, rfl⟩ := he
      have hdue : dueInk o (.finish tag :: past) es = keptInk es := by
        simp [dueInk, text, hwritten tag List.mem_cons_self]
      rw [dueInk_finish, writtenInk_finish, ← hrest, hdue]
    · have he' : ∀ tag, e ≠ .finish tag := fun tag h => he ⟨tag, h⟩
      rw [dueInk_cons he', writtenInk_cons he']
      exact hrest (e :: past)

theorem keptInk_sublist (o : Options) (events : List Event) :
    (keptInk events).Sublist (writtenInk o [] events) := by
  have h := dueInk_sublist (o := o) [] events
  simpa [dueInk, text] using h

theorem keptInk_eq {events : List Event}
    (hwritten : ∀ tag, .finish tag ∈ events → writesEnd o tag = true) :
    keptInk events = writtenInk o [] events := by
  have h := dueInk_eq hwritten []
  simpa [dueInk, text] using h

/-! ## What is lost -/

theorem keptInk_sublist_dataInk (events : List Event) :
    (keptInk events).Sublist (dataInk events) := by
  induction events with
  | nil => exact List.Sublist.refl _
  | cons e es ih =>
    rw [keptInk, dataInk, List.flatMap_cons]
    refine List.Sublist.append ?_ ih
    split
    · exact List.Sublist.refl _
    · exact List.nil_sublist _

theorem event_ink_eq_nil_iff {e : Event} :
    e.ink = [] ↔ ∀ t, e = .data (some t) → Text.allBlank t = true := by
  cases e with
  | data t =>
    cases t with
    | none => simp [Event.ink]
    | some t => simp [Event.ink, Text.ink_eq_nil_iff]
  | start tag attrs => simp [Event.ink]
  | finish tag => simp [Event.ink]
  | comment t => simp [Event.ink]

theorem losesBlanksOnly_cons {e : Event} {es : List Event} :
    LosesBlanksOnly (e :: es) ↔ (endsNext es = false → e.ink = []) ∧ LosesBlanksOnly es := by
  have hform : ∀ events, LosesBlanksOnly events ↔ ∀ before e after,
      events = before ++ e :: after → endsNext after = false → e.ink = [] := by
    intro events
    constructor
    · intro h before e after hsplit hends
      rw [event_ink_eq_nil_iff]
      intro t he
      exact h before t after (he ▸ hsplit) hends
    · intro h before t after hsplit hends
      exact event_ink_eq_nil_iff.1 (h before _ after hsplit hends) t rfl
  rw [hform, hform, forall_split_cons]

/-- All ink is kept exactly if only blank texts are lost. -/
theorem keptInk_eq_dataInk_iff {events : List Event} :
    keptInk events = dataInk events ↔ LosesBlanksOnly events := by
  induction events with
  | nil => exact ⟨fun _ before t after hsplit => by simp at hsplit, fun _ => rfl⟩
  | cons e es ih =>
    rw [losesBlanksOnly_cons, ← ih, keptInk, dataInk, List.flatMap_cons]
    by_cases hends : endsNext es = true
    · rw [if_pos hends, List.append_cancel_left_eq]
      simp [hends, dataInk]
    · rw [if_neg hends, List.nil_append]
      constructor
      · intro h
        have hlen := (keptInk_sublist_dataInk es).length_le
        rw [h, dataInk, List.length_append] at hlen
        have hnil : e.ink = [] := List.eq_nil_of_length_eq_zero (by omega)
        exact ⟨fun _ => hnil, by rw [h, hnil]; rfl⟩
      · rintro ⟨hnil, h⟩
        rw [hnil (by simpa using hends), h]
        rfl

/-! ## Arrangements of events

Whether a text survives depends on where it stands and not on what it says.  Events are arranged
alike if they are the same without their texts. -/

theorem map_mute_mute (events : List Event) :
    (events.map Event.mute).map Event.mute = events.map Event.mute := by
  rw [List.map_map]
  exact List.map_congr_left fun e _ => by cases e <;> rfl

theorem startsRaw_mute (e : Event) : e.mute.startsRaw = e.startsRaw := by
  cases e <;> rfl

theorem fault?_mute (o : Options) (e : Event) : e.mute.fault? o = e.fault? o := by
  cases e <;> rfl

theorem endsNext_mute (events : List Event) :
    endsNext (events.map Event.mute) = endsNext events := by
  induction events with
  | nil => rfl
  | cons e es ih =>
    cases e with
    | start tag attrs => rfl
    | finish tag => rfl
    | data t => exact ih
    | comment t => exact ih

/-- What does not depend on texts holds of all events that are arranged alike. -/
theorem forall_of_mute {P : Event → Prop} (hP : ∀ e, P e.mute ↔ P e) {events others : List Event}
    (hsame : others.map Event.mute = events.map Event.mute) (h : ∀ e ∈ events, P e) :
    ∀ e ∈ others, P e := by
  intro e he
  have hmem : e.mute ∈ events.map Event.mute := hsame ▸ List.mem_map_of_mem he
  obtain ⟨e', he', heq⟩ := List.mem_map.1 hmem
  rw [← hP, ← heq, hP]
  exact h e' he'

/-- Events without texts write nothing, unless something waits for an end tag to come. -/
theorem writtenInk_mute {past : List Event} (events : List Event)
    (h : endsNext events = true → Text.ink (text o past) = []) :
    writtenInk o past (events.map Event.mute) = [] := by
  induction events generalizing past with
  | nil => rfl
  | cons e es ih =>
    rw [List.map_cons]
    cases e with
    | start tag attrs =>
      show writtenInk o past (.start tag attrs :: es.map Event.mute) = []
      rw [writtenInk_cons (by simp)]
      exact ih fun _ => rfl
    | finish tag =>
      show writtenInk o past (.finish tag :: es.map Event.mute) = []
      rw [writtenInk_finish, h rfl, List.nil_append]
      refine ih fun _ => ?_
      rw [text]
      split
      · rfl
      · exact h rfl
    | data t =>
      show writtenInk o past (.data none :: es.map Event.mute) = []
      rw [writtenInk_cons (by simp)]
      exact ih h
    | comment t =>
      show writtenInk o past (.comment t :: es.map Event.mute) = []
      rw [writtenInk_cons (by simp)]
      exact ih h

/-- If the next tag after a text is no end tag, then that text on its own is lost. -/
theorem writtenInk_lost {before after : List Event} (t : Text) (hends : endsNext after = false) :
    writtenInk o [] (before.map Event.mute ++ .data (some t) :: after.map Event.mute) = [] := by
  rw [writtenInk_append, writtenInk_mute before fun _ => rfl, writtenInk_cons (by simp),
    writtenInk_mute after (by simp [hends]), List.append_nil]

/-- All texts come out, whatever they are, exactly in the arrangements in which the next tag after
every text is an end tag. -/
theorem forall_mute_sublist_iff {events : List Event} :
    (∀ others : List Event, others.map Event.mute = events.map Event.mute →
        (dataInk others).Sublist (writtenInk o [] others)) ↔
      ∀ before t after, events = before ++ .data t :: after → endsNext after = true := by
  constructor
  · intro h before t after hsplit
    cases hends : endsNext after with
    | true => rfl
    | false =>
      -- with ink at this place only, nothing comes out
      have hsame : (before.map Event.mute ++ .data (some ['x']) :: after.map Event.mute).map
          Event.mute = events.map Event.mute := by
        rw [hsplit, List.map_append, List.map_cons, map_mute_mute, map_mute_mute, List.map_append,
          List.map_cons]
        rfl
      have hsub := h _ hsame
      have hink : Event.ink (.data (some ['x'])) = ['x'] := by decide
      rw [writtenInk_lost _ hends, dataInk, List.flatMap_append, List.flatMap_cons, hink,
        List.sublist_nil] at hsub
      simp at hsub
  · intro h others hsame
    have hkept : keptInk others = dataInk others := by
      rw [keptInk_eq_dataInk_iff]
      intro before t after hsplit hends
      -- the text that is lost would be lost at the same place of the given events
      rw [hsplit, List.map_append, List.map_cons] at hsame
      obtain ⟨before', rest, hevents, -, hrest⟩ := List.map_eq_append_iff.1 hsame.symm
      obtain ⟨e', after', hcons, he', hafter⟩ := List.map_eq_cons_iff.1 hrest
      cases e' with
      | data t' =>
        have hnext := h before' t' after' (by rw [hevents, hcons])
        rw [← endsNext_mute, hafter, endsNext_mute, hends] at hnext
        cases hnext
      | start tag attrs => cases he'
      | finish tag => cases he'
      | comment t' => cases he'
    rw [← hkept]
    exact keptInk_sublist o others

theorem endInk_emitted {tools : Tools} {s : Service} (hempty : o.removeEmptyElements = false)
    {events : List Event} (hplain : ∀ e ∈ events, e.startsRaw = false)
    (hok : (Page.minifyEvents tools o s events).fault = none) :
    endInk o events (Page.minifyEvents tools o s events).emitted = writtenInk o [] events := by
  rw [minifyEvents_emitted hempty hplain hok]
  rfl

/-- Whether every text stands inside of an element; `past` are the events before, newest first. -/
def textsInside : List Event → List Event → Bool
  | _, [] => true
  | past, .data t :: es => !(openElements past).isEmpty && textsInside (.data t :: past) es
  | past, e :: es => textsInside (e :: past) es

end Transcript

/-! ## When no text is lost -/

namespace Page

open Transcript

/-- **When no text is lost.**  If only blank texts are followed by a start tag, or by no tag, then
the ink of all texts comes out in order.  The converse holds where every end tag is written.  Where
some are left out a text may come out twice and hide the loss of another, but not for all texts:
whatever the texts are, all of them come out exactly if the next tag after each is an end tag. -/
theorem dataInk_sublist_iff (tools : Tools) (o : Options) (s : Service) (events : List Event)
    (hempty : o.removeEmptyElements = false) (hplain : ∀ e ∈ events, e.startsRaw = false)
    (hok : (minifyEvents tools o s events).fault = none) :
    (LosesBlanksOnly events →
        (dataInk events).Sublist (endInk o events (minifyEvents tools o s events).emitted)) ∧
      ((∀ tag, .finish tag ∈ events → writesEnd o tag = true) →
        (dataInk events).Sublist (endInk o events (minifyEvents tools o s events).emitted) →
        LosesBlanksOnly events) ∧
      ((∀ others : List Event, others.map Event.mute = events.map Event.mute →
          (dataInk others).Sublist (endInk o others (minifyEvents tools o s others).emitted)) ↔
        ∀ before t after, events = before ++ .data t :: after → endsNext after = true) := by
  rw [endInk_emitted hempty hplain hok]
  refine ⟨fun hlost => ?_, fun hwritten hsub => ?_, ?_⟩
  · rw [← keptInk_eq_dataInk_iff.2 hlost]
    exact keptInk_sublist o events
  · rw [← keptInk_eq hwritten] at hsub
    exact keptInk_eq_dataInk_iff.1
      ((keptInk_sublist_dataInk events).eq_of_length_le hsub.length_le)
  · rw [← forall_mute_sublist_iff]
    have hevents := (minifyEvents_fault_eq_none_iff hempty hplain).1 hok
    refine forall_congr' fun others => forall_congr' fun hsame => ?_
    have hplain' : ∀ e ∈ others, e.startsRaw = false :=
      forall_of_mute (fun e => by rw [startsRaw_mute]) hsame hplain
    have hok' : (minifyEvents tools o s others).fault = none :=
      (minifyEvents_fault_eq_none_iff hempty hplain').2
        (forall_of_mute (fun e => by rw [fault?_mute]) hsame hevents)
    rw [endInk_emitted hempty hplain' hok']

/-- In a list only the blanks between its items are lost. -/
theorem dataInk_sublist_iff_list :
    let events : List Event :=
      [.start "ul" [], .data (some "\n "), .start "li" [], .data (some " a  b "), .comment "c",
        .data (some "d"), .finish "li", .data (some " "), .start "li" [], .data (some "e"),
        .finish "li", .finish "ul"]
    (∀ e ∈ events, e.startsRaw = false) ∧
      (minifyEvents {} {} { replies := [] } events).fault = none ∧ LosesBlanksOnly events := by
  intro events
  have hplain : ∀ e ∈ events, e.startsRaw = false := by decide +kernel
  have hok : (minifyEvents {} {} { replies := [] } events).fault = none := by decide +kernel
  have hwritten : ∀ tag, .finish tag ∈ events → writesEnd {} tag = true := by
    intro tag htag
    simp only [events, List.mem_cons, reduceCtorEq, Event.finish.injEq, false_or, or_false,
      List.not_mem_nil] at htag
    rcases htag with rfl | rfl | rfl <;> decide
  exact ⟨hplain, hok, (dataInk_sublist_iff {} {} { replies := [] } events rfl hplain hok).2.1
    hwritten (by decide +kernel)⟩

/-- A text before an inner element is lost, in events that are properly nested and have all their
texts inside of elements. -/
theorem dataInk_not_sublist_inner :
    let events : List Event :=
      [.start "p" [], .data (some "a"), .start "b" [], .finish "b", .finish "p"]
    wellNested (· == ·) [] events = true ∧ textsInside [] events = true ∧
      (∀ e ∈ events, e.startsRaw = false) ∧
      (minifyEvents {} {} { replies := [] } events).fault = none ∧
      ¬ (dataInk events).Sublist
        (endInk {} events (minifyEvents {} {} { replies := [] } events).emitted) := by
  intro events
  exact ⟨by decide +kernel, by decide +kernel, by decide +kernel, by decide +kernel,
    by decide +kernel⟩

end Page

end PagePress

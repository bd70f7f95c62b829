import Mathlib.Data.List.TakeWhile
import PagePress.Markup.Reader
import PagePress.Proofs.Course
import PagePress.Proofs.Survival

/-!
# Opening marks in texts

A reader hands over texts with their references resolved, and an end tag writes them as they are: no
character is written as a reference again.  So an opening mark `<` in a text comes out as one, and a
later reader may take it for the beginning of a tag.  This file says exactly which marks come out.

* `Run.endTexts` are the texts that end tags write.
* `endTexts_free_iff` says of any character that is no blank that it is in none of them exactly if
  it is in no text with an end tag as the next tag after it.  Neither normalising nor tidying a text
  takes a character away that is no blank, and neither adds one.
* `mem_feed` says that all else that is written comes from tags, comments and the document type.
* `openingMark_iff` puts this together for a page.
-/

set_option autoImplicit false

namespace PagePress

open Transcript

/-! ## Characters that are no blanks -/

theorem Text.mem_ink_iff {x : Char} (hx : isBlank x = false) {t : Text} : x ∈ ink t ↔ x ∈ t := by
  simp [ink, hx]

theorem Transcript.mem_normal_iff {x : Char} (hx : isBlank x = false) (o : Options)
    (past : List Event) (t : Text) : x ∈ normal o past t ↔ x ∈ t := by
  rw [← Text.mem_ink_iff hx, ink_normal, Text.mem_ink_iff hx]

/-- Tidying a chunk takes away only blanks. -/
theorem Chunk.ink_tidy (c : Text) : Text.ink (tidy c) = Text.ink c := by
  rw [tidy]
  split
  · rename_i hblank
    rw [Text.ink_eq_nil_iff.2 hblank, Text.ink_eq_nil_iff, Text.allBlank, List.all_eq_true]
    exact fun d hd => List.all_eq_true.1 hblank d (List.mem_of_mem_take hd)
  · have hlead : Text.ink (lead c).getLast?.toList = [] := by
      rw [Text.ink_eq_nil_iff, Text.allBlank, List.all_eq_true]
      intro d hd
      exact List.mem_takeWhile_imp (List.mem_of_mem_getLast? (Option.mem_toList.1 hd))
    have htrail : Text.ink (trail c).head?.toList = [] := by
      rw [Text.ink_eq_nil_iff, Text.allBlank, List.all_eq_true]
      intro d hd
      have hmem := List.mem_of_mem_head? (Option.mem_toList.1 hd)
      exact List.mem_takeWhile_imp (List.mem_reverse.1 hmem)
    rw [Text.ink_append, Text.ink_append, hlead, htrail, Text.ink_strip, List.append_nil,
      List.nil_append]

theorem Chunk.mem_tidy_iff {x : Char} (hx : isBlank x = false) (c : Text) :
    x ∈ tidy c ↔ x ∈ c := by
  rw [← Text.mem_ink_iff hx, ink_tidy, Text.mem_ink_iff hx]

/-! ## The texts of end tags -/

variable {tools : Tools} {o : Options} {past : List Event} {r : Run} {s : Service}

namespace Run

/-- The texts that the end tags among events write, up to the first fault. -/
def endTexts (tools : Tools) (o : Options) (r : Run) (s : Service) (events : List Event) :
    List Text :=
  (r.atEnds tools o s events).filterMap fun p => (p.1.closingText tools o p.2).1.toOption

/-- The texts of the end tags after the first event: none if that has a fault. -/
def endTextsAfter (tools : Tools) (o : Options) (first : Step) (es : List Event) : List Text :=
  (atEndsAfter tools o first es).filterMap fun p => (p.1.closingText tools o p.2).1.toOption

theorem endTexts_cons {e : Event} (he : ∀ tag, e ≠ .finish tag) (es : List Event) :
    r.endTexts tools o s (e :: es) = endTextsAfter tools o (r.step tools o s e) es := by
  rw [endTexts, atEnds_cons he, endTextsAfter]

theorem endTexts_finish {tag text : Text} {s' : Service}
    (htext : r.closingText tools o s = (.ok text, s')) (es : List Event) :
    r.endTexts tools o s (.finish tag :: es)
      = text :: endTextsAfter tools o (r.step tools o s (.finish tag)) es := by
  rw [endTexts, atEnds_finish, List.filterMap_cons, htext]
  rfl

theorem endTextsAfter_of_no_fault {first : Step} (hok : first.fault = none) (es : List Event) :
    endTextsAfter tools o first es = first.run.endTexts tools o first.service es := by
  rw [endTextsAfter, atEndsAfter, hok]
  rfl

theorem forall_endTextsAfter_iff {P : Text → Prop} (first : Step) (es : List Event) :
    (∀ c ∈ endTextsAfter tools o first es, P c) ↔
      (first.fault = none → ∀ c ∈ first.run.endTexts tools o first.service es, P c) := by
  cases hfault : first.fault with
  | some fault => simp [endTextsAfter, atEndsAfter, hfault]
  | none => simp [endTextsAfter_of_no_fault hfault]

/-- The texts of later end tags are among those of all. -/
theorem mem_endTexts_cons {e : Event} {es : List Event} (hok : (r.step tools o s e).fault = none)
    {c : Text}
    (hc : c ∈ (r.step tools o s e).run.endTexts tools o (r.step tools o s e).service es) :
    c ∈ r.endTexts tools o s (e :: es) := by
  rw [← endTextsAfter_of_no_fault hok] at hc
  obtain ⟨own, hown⟩ := exists_atEnds_append tools o r s e
  rw [endTexts, hown, List.filterMap_append]
  exact List.mem_append_right _ hc

end Run

namespace Transcript

/-- Outside of raw text an end tag writes the pending text. -/
theorem closingText_of_plain (hraw : RawKind.ofTag? r.tag = none) :
    r.closingText tools o s = (.ok r.pending, s) := by
  rw [Run.closingText, hraw]

/-- Outside of raw text every event without a fault keeps that a run follows its past, whatever the
options are. -/
theorem step_follows_plain (hraw : RawKind.ofTag? r.tag = none) (h : Follows o past r) {e : Event}
    (hok : (r.step tools o s e).fault = none) :
    Follows o (e :: past) (r.step tools o s e).run := by
  have hknows := step_knows h.knows hok
  refine ⟨?_, hknows.tag, hknows.ends, hknows.runs⟩
  cases e with
  | start tag attrs =>
    obtain ⟨chunks, hrun⟩ := Run.start_inv hok
    show (r.start o tag attrs).1.pending = _
    rw [hrun]
    rfl
  | finish tag =>
    obtain ⟨text, chunks, htext, hrun⟩ := Run.finish_inv hok
    rw [closingText_of_plain hraw, Prod.mk.injEq, Except.ok.injEq] at htext
    show (r.finish tools o s tag).run.pending = _
    rw [hrun, ← htext.1, h.pending]
    rfl
  | data t =>
    cases t with
    | none => exact h.pending
    | some t =>
      show r.pending ++ r.normalize o t = text o past ++ normal o past t
      rw [h.pending, h.normalize_eq]
  | comment t => exact h.pending

/-- No text with an end tag as the next tag after it holds the character. -/
def Spares (x : Char) (_ : List Event) (e : Event) (after : List Event) : Prop :=
  ∀ t, e = .data (some t) → endsNext after = true → x ∉ t

/-- **Which characters end tags write.**  A character that is no blank is in no text of an end tag
exactly if it is in none that waits for one, and in no text to come that an end tag will write. -/
theorem endTexts_free_iff {x : Char} (hx : isBlank x = false) {events : List Event}
    (hplain : ∀ e ∈ events, e.startsRaw = false) (h : Follows o past r)
    (hraw : RawKind.ofTag? (lastTag past) = none) :
    (∀ c ∈ r.endTexts tools o s events, x ∉ c) ↔
      (endsNext events = true → x ∉ text o past) ∧
        Run.Throughout tools o (Spares x) past r s events := by
  induction events generalizing past r s with
  | nil => simp [Run.endTexts, Run.atEnds, endsNext, Run.throughout_nil]
  | cons e es ih =>
    have hrtag : RawKind.ofTag? r.tag = none := by rw [h.tag, hraw]
    have hrest : (∀ c ∈ Run.endTextsAfter tools o (r.step tools o s e) es, x ∉ c) ↔
        ((r.step tools o s e).fault = none → (endsNext es = true → x ∉ text o (e :: past)) ∧
          Run.Throughout tools o (Spares x) (e :: past) (r.step tools o s e).run
            (r.step tools o s e).service es) := by
      rw [Run.forall_endTextsAfter_iff]
      refine forall_congr' fun hok => ?_
      exact ih (fun e' he' => hplain e' (List.mem_cons_of_mem _ he'))
        (step_follows_plain hrtag h hok)
        (ofTag?_lastTag_cons (hplain e List.mem_cons_self) hraw)
    rw [Run.throughout_cons]
    cases e with
    | start tag attrs =>
      rw [Run.endTexts_cons (by simp), hrest]
      simp [endsNext, text, Spares]
    | finish tag =>
      -- what waits for the end tag is written, and still waits afterwards or is forgotten
      have hwaits : x ∉ text o past → x ∉ text o (.finish tag :: past) := by
        intro hfree
        rw [text]
        split
        · simp
        · exact hfree
      rw [Run.endTexts_finish (closingText_of_plain hrtag), List.forall_mem_cons, hrest,
        h.pending]
      constructor
      · rintro ⟨hfree, hafter⟩
        exact ⟨fun _ => hfree, by simp [Spares], fun hok => (hafter hok).2⟩
      · rintro ⟨hfree, -, hafter⟩
        exact ⟨hfree rfl, fun hok => ⟨fun _ => hwaits (hfree rfl), hafter hok⟩⟩
    | data t =>
      rw [Run.endTexts_cons (by simp), hrest]
      cases t with
      | none => simp [endsNext, text, Spares, Run.step]
      | some t =>
        have hmem : x ∉ text o (.data (some t) :: past) ↔ x ∉ text o past ∧ x ∉ t := by
          rw [text, List.mem_append, mem_normal_iff hx, not_or]
        simp only [hmem, Spares, Event.data.injEq, Option.some.injEq, forall_eq', endsNext]
        constructor
        · intro hafter
          obtain ⟨hfree, hthen⟩ := hafter rfl
          exact ⟨fun hends => (hfree hends).1, fun hends => (hfree hends).2, fun _ => hthen⟩
        · rintro ⟨hfree, ht, hthen⟩ hok
          exact ⟨fun hends => ⟨hfree hends, ht hends⟩, hthen hok⟩
    | comment t =>
      rw [Run.endTexts_cons (by simp), hrest]
      simp [endsNext, text, Spares, Run.step]

end Transcript

/-! ## All else that is written -/

/-- The chunks that an event makes, its texts apart. -/
def Event.markup (o : Options) : Event → List Text
  | .finish tag => Run.endTag tag
  | e => chunks o [] e

/-- A step has a chunk afterwards: it is sent on, or waits in the run. -/
def Step.Has (step : Step) (c : Text) : Prop :=
  c ∈ step.emitted ∨ step.fault = none ∧ c ∈ step.run.chunks

namespace Run

theorem mem_of_fromLastOpening? {cs tail : List Text} (h : fromLastOpening? cs = some tail)
    {c : Text} (hc : c ∈ tail) : c ∈ cs := by
  induction cs with
  | nil => simp [fromLastOpening?] at h
  | cons d ds ih =>
    rw [fromLastOpening?] at h
    split at h
    · rename_i rest hrest
      cases h
      exact List.mem_cons_of_mem _ (ih hrest)
    · split at h
      · cases h
        exact hc
      · cases h

/-- Closing an element adds nothing but the end tag. -/
theorem mem_close {tag c : Text} (hc : (r.close o s tag).Has c) :
    c ∈ r.chunks ∨ c ∈ endTag tag := by
  rw [close] at hc
  rcases closing_cases o r tag with h | ⟨tail, h, -, htail⟩ | h
  · rw [h] at hc
    simp [Step.Has] at hc
  · rw [h] at hc
    simp only [Step.Has, List.not_mem_nil, true_and, false_or] at hc
    exact .inl (mem_of_fromLastOpening? htail hc)
  · rw [h] at hc
    cases hwritten : writesEnd o tag with
    | false =>
      simp only [hwritten, Step.Has, Bool.false_eq_true, if_false, List.not_mem_nil, true_and,
        false_or] at hc
      exact .inl hc
    | true =>
      simp only [hwritten, Step.Has, if_true, List.not_mem_nil, and_false, or_false,
        List.mem_append] at hc
      exact hc

/-- What an event adds: its markup, and for an end tag the text of its element. -/
theorem mem_step {e : Event} {c : Text} (hc : (r.step tools o s e).Has c) :
    c ∈ r.chunks ∨ c ∈ e.markup o ∨
      ∃ tag s', e = .finish tag ∧ r.closingText tools o s = (.ok c, s') := by
  cases e with
  | start tag attrs =>
    rcases hc with hc | ⟨hok, hc⟩
    · simp [step] at hc
    · rw [step, start_eq [] ((start_fault tag attrs).symm.trans hok)] at hc
      rcases List.mem_append.1 hc with hc | hc
      · exact .inl hc
      · exact .inr (.inl hc)
  | finish tag =>
    rw [step, finish] at hc
    split at hc
    · simp [Step.Has] at hc
    · rename_i text s' htext
      rcases mem_close hc with hc | hc
      · rcases List.mem_append.1 hc with hc | hc
        · exact .inl hc
        · rw [List.mem_singleton] at hc
          exact .inr (.inr ⟨tag, s', rfl, by rw [htext, hc]⟩)
      · exact .inr (.inl hc)
  | data t =>
    rcases hc with hc | ⟨-, hc⟩
    · simp [step] at hc
    · cases t with
      | none => exact .inl hc
      | some t => exact .inl hc
  | comment t =>
    rcases hc with hc | ⟨-, hc⟩
    · simp [step] at hc
    · rcases List.mem_append.1 hc with hc | hc
      · exact .inl hc
      · exact .inr (.inl hc)

/-- **Where the chunks of a run come from**: they were there before, or are the markup of an event,
or the text of an end tag. -/
theorem mem_feed {events : List Event} {c : Text} (hc : (r.feed tools o s events).Has c) :
    c ∈ r.chunks ∨ c ∈ events.flatMap (Event.markup o) ∨ c ∈ r.endTexts tools o s events := by
  induction events generalizing r s with
  | nil =>
    rcases hc with hc | ⟨-, hc⟩
    · simp [feed] at hc
    · exact .inl hc
  | cons e es ih =>
    rw [List.flatMap_cons]
    have hfirst : (r.step tools o s e).Has c →
        c ∈ r.chunks ∨ c ∈ e.markup o ++ es.flatMap (Event.markup o) ∨
          c ∈ r.endTexts tools o s (e :: es) := by
      intro hhas
      rcases mem_step hhas with h | h | ⟨tag, s', rfl, htext⟩
      · exact .inl h
      · exact .inr (.inl (List.mem_append_left _ h))
      · refine .inr (.inr ?_)
        rw [endTexts_finish htext]
        exact List.mem_cons_self
    cases hfault : (r.step tools o s e).fault with
    | some fault =>
      rw [feed_cons_of_fault hfault] at hc
      rcases hc with hc | ⟨hok, -⟩
      · exact hfirst (.inl hc)
      · rw [hfault] at hok
        cases hok
    | none =>
      rw [feed_cons_of_no_fault hfault] at hc
      have hsplit : (r.step tools o s e).Has c ∨
          ((r.step tools o s e).run.feed tools o (r.step tools o s e).service es).Has c := by
        rcases hc with hc | hc
        · rcases List.mem_append.1 hc with hc | hc
          · exact .inl (.inl hc)
          · exact .inr (.inl hc)
        · exact .inr (.inr hc)
      rcases hsplit with hhas | hhas
      · exact hfirst hhas
      · rcases ih hhas with h | h | h
        · exact hfirst (.inr ⟨hfault, h⟩)
        · exact .inr (.inl (List.mem_append_right _ h))
        · exact .inr (.inr (mem_endTexts_cons hfault h))

end Run

/-! ## Which marks come out -/

namespace Page

theorem has_of_mem_flush {step : Step} {c : Text} (hc : c ∈ (flush step).emitted) :
    step.Has c := by
  rw [flush] at hc
  split at hc
  · exact .inl hc
  · rename_i hok
    rcases List.mem_append.1 hc with hc | hc
    · exact .inl hc
    · exact .inr ⟨hok, hc⟩

/-- **Which opening marks come out of texts.**  Outside of raw text and whatever the options are, no
text that an end tag writes holds an opening mark exactly if none of the texts does that have an end
tag as the next tag after them, as far as the page is handled.  Tidying makes no difference to that.
And if none does, then all opening marks of the page come from its tags, its comments and its
document type. -/
theorem openingMark_iff (tools : Tools) (o : Options) (s : Service) (events : List Event)
    (hplain : ∀ e ∈ events, e.startsRaw = false) :
    ((∀ c ∈ (opening o).endTexts tools o s events, '<' ∉ c) ↔
        ∀ before t after, events = before ++ .data (some t) :: after →
          ((opening o).feed tools o s before).fault = none → endsNext after = true → '<' ∉ t) ∧
      (∀ c ∈ (opening o).endTexts tools o s events, '<' ∈ Chunk.tidy c ↔ '<' ∈ c) ∧
      ((∀ c ∈ (opening o).endTexts tools o s events, '<' ∉ c) →
        ∀ c ∈ (minifyEvents tools o s events).emitted, '<' ∈ Chunk.tidy c →
          c ∈ doctype o longDoctype :: events.flatMap (Event.markup o)) := by
  have hmark : isBlank '<' = false := by decide
  refine ⟨?_, fun c _ => Chunk.mem_tidy_iff hmark c, fun hfree c hc hin => ?_⟩
  · rw [endTexts_free_iff hmark hplain (follows_opening o) rfl]
    constructor
    · rintro ⟨-, hspares⟩ before t after hsplit hok hends
      exact hspares before _ after hsplit hok t rfl hends
    · intro h
      refine ⟨fun _ => by simp [text], fun before e after hsplit hok t he hends => ?_⟩
      exact h before t after (he ▸ hsplit) hok hends
  · rw [Chunk.mem_tidy_iff hmark] at hin
    rcases Run.mem_feed (has_of_mem_flush hc) with h | h | h
    · exact List.mem_cons.2 (.inl (List.mem_singleton.1 h))
    · exact List.mem_cons_of_mem _ h
    · exact absurd hin (hfree c h)

/-- A page whose only text with a mark is lost before a start tag. -/
theorem openingMark_iff_lost :
    let o : Options := { removeEmptyElements := true }
    let events : List Event :=
      [.start "p" [], .data (some "a < b"), .start "b" [], .finish "b", .start "i" [],
        .data (some "c > d"), .finish "i", .finish "p"]
    (∀ e ∈ events, e.startsRaw = false) ∧
      ∀ before t after, events = before ++ .data (some t) :: after →
        ((opening o).feed {} o { replies := [] } before).fault = none →
          endsNext after = true → '<' ∉ t := by
  intro o events
  have hplain : ∀ e ∈ events, e.startsRaw = false := by decide +kernel
  exact ⟨hplain, (openingMark_iff {} o { replies := [] } events hplain).1.1 (by decide +kernel)⟩

/-- A text with a resolved reference comes out as a tag: the page that is read again has an element
that the page did not have. -/
theorem openingMark_read_again :
    let events : List Event := [.start "p" [], .data (some "<b>"), .finish "p"]
    let page := Chunk.page (minifyEvents {} {} { replies := [] } events).emitted
    (∀ e ∈ events, e.startsRaw = false) ∧
      ¬ (∀ c ∈ (opening {}).endTexts {} {} { replies := [] } events, '<' ∉ c) ∧
      page = ("<!DOCTYPE html><p><b></p>" : Text) ∧
      .start "b" [] ∉ events ∧ .start "b" [] ∈ Markup.events page := by
  decide +kernel

end Page

end PagePress

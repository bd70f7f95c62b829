import PagePress.Proofs.Transcript

/-!
# The course of a run

The transcript of a page is about events without raw text, and about options that remove nothing.
This file says what holds of every run, whatever the events and the options are.

* `finish_inv` says all that an end tag can do to a run: the text of the element is settled, and
  unless the end tag is implied the pending text is forgotten.  An element that is removed has no
  text, so that it makes no difference there which of the two happens.
* `feed_invariant` is the induction over a run, done once.
* `Knows o past r` says that the run `r` has come to know the tags of `past`.  Every run does
  (`feed_knows`).
* `Run.Throughout` is what holds of every event that a run comes to, and `Run.atEnds` lists the
  states in which end tags find it.
-/

set_option autoImplicit false

namespace PagePress

open Transcript

variable {tools : Tools} {o : Options} {past : List Event} {r : Run} {s : Service}

/-! ## What an end tag does -/

namespace Run

/-- How an element can be closed.  It is removed only if its text is empty. -/
theorem closing_cases (o : Options) (r : Run) (tag : Text) :
    r.closing o tag = .unopened ∨
      (∃ tail, r.closing o tag = .removed tail ∧ r.pending = [] ∧
        fromLastOpening? r.chunks = some tail) ∨
      r.closing o tag = if writesEnd o tag then .written else .implied := by
  rw [closing, writesEnd]
  by_cases hcond : (o.removeEmptyElements && r.pending.isEmpty && tag == r.tag &&
      isRemovable tag) = true
  · have hempty : r.pending = [] := by
      simp only [Bool.and_eq_true, List.isEmpty_iff] at hcond
      exact hcond.1.1.2
    rw [if_pos hcond]
    cases fromLastOpening? r.chunks with
    | none => exact .inl rfl
    | some tail => exact .inr (.inl ⟨tail, rfl, hempty, rfl⟩)
  · rw [if_neg hcond]
    cases o.removeOptionalTags && hasOptionalEnd tag
    · exact .inr (.inr rfl)
    · exact .inr (.inr rfl)

theorem close_inv {tag : Text} (hok : (r.close o s tag).fault = none) :
    ∃ chunks, (r.close o s tag).run
        = { r with chunks := chunks, pending := if writesEnd o tag then [] else r.pending } ∧
      (r.close o s tag).service = s := by
  rw [close] at hok ⊢
  rcases closing_cases o r tag with h | ⟨tail, h, hempty, -⟩ | h
  · rw [h] at hok
    cases hok
  · rw [h]
    refine ⟨tail, ?_, rfl⟩
    rw [hempty, ite_self, ← hempty]
  · rw [h]
    cases writesEnd o tag
    · exact ⟨r.chunks, rfl, rfl⟩
    · exact ⟨[], rfl, rfl⟩

/-- **What an end tag does to a run.**  It settles the text of the element that ends, and forgets it
if the end tag is written. -/
theorem finish_inv {tag : Text} (hok : (r.finish tools o s tag).fault = none) :
    ∃ text chunks,
      r.closingText tools o s = (.ok text, (r.finish tools o s tag).service) ∧
        (r.finish tools o s tag).run
          = { r.settle o tag text with
              chunks := chunks, pending := if writesEnd o tag then [] else text } := by
  rw [finish] at hok ⊢
  split at hok
  · cases hok
  · rename_i text s' htext
    obtain ⟨chunks, hrun, hservice⟩ := close_inv hok
    exact ⟨text, chunks, by rw [htext, hservice], hrun⟩

/-- What a start tag without a fault does to a run. -/
theorem start_inv {tag : Text} {attrs : Attributes} (hok : (r.start o tag attrs).2 = none) :
    ∃ chunks, (r.start o tag attrs).1 = (r.enter o tag.lower attrs).write chunks := by
  rw [start_fault] at hok
  exact ⟨_, by rw [start_eq [] hok]⟩

/-! ## Many events -/

/-- A run without a fault has none in its first event, and none in the others. -/
theorem feed_cons_fault_eq_none {e : Event} {es : List Event}
    (hok : (r.feed tools o s (e :: es)).fault = none) :
    (r.step tools o s e).fault = none ∧
      ((r.step tools o s e).run.feed tools o (r.step tools o s e).service es).fault = none := by
  cases hfault : (r.step tools o s e).fault with
  | some fault =>
    rw [feed_cons_of_fault hfault, hfault] at hok
    cases hok
  | none =>
    rw [feed_cons_of_no_fault hfault] at hok
    exact ⟨rfl, hok⟩

/-- **What every event keeps holds after a run.**  The past of the run goes along, newest event
first. -/
theorem feed_invariant {P : List Event → Run → Prop} {events : List Event}
    (hstep : ∀ past r s, ∀ e ∈ events, P past r → (r.step tools o s e).fault = none →
      P (e :: past) (r.step tools o s e).run)
    (h : P past r) (hok : (r.feed tools o s events).fault = none) :
    P (events.reverse ++ past) (r.feed tools o s events).run := by
  induction events generalizing past r s with
  | nil => exact h
  | cons e es ih =>
    obtain ⟨hfirst, hrest⟩ := feed_cons_fault_eq_none hok
    rw [feed_cons_of_no_fault hfirst, List.reverse_cons, List.append_assoc]
    exact ih (fun past r s e' he' => hstep past r s e' (List.mem_cons_of_mem _ he'))
      (hstep past r s e List.mem_cons_self h hfirst) hrest

/-! ## The events that a run comes to -/

/-- A property of every event that a run comes to before the first fault: of its past, of the event
itself, and of the events that follow it. -/
def Throughout (tools : Tools) (o : Options) (Q : List Event → Event → List Event → Prop)
    (past : List Event) (r : Run) (s : Service) (events : List Event) : Prop :=
  ∀ before e after, events = before ++ e :: after → (r.feed tools o s before).fault = none →
    Q (before.reverse ++ past) e after

theorem throughout_nil (Q : List Event → Event → List Event → Prop) :
    Throughout tools o Q past r s [] := by
  intro before e after hsplit
  simp at hsplit

theorem throughout_cons {Q : List Event → Event → List Event → Prop} {e : Event}
    {es : List Event} :
    Throughout tools o Q past r s (e :: es) ↔
      Q past e es ∧ ((r.step tools o s e).fault = none →
        Throughout tools o Q (e :: past) (r.step tools o s e).run (r.step tools o s e).service
          es) := by
  rw [Throughout, forall_split_cons]
  refine and_congr ⟨fun h => h rfl, fun h _ => h⟩ ⟨fun h hfirst before y after hes hok => ?_,
    fun h before y after hes hok => ?_⟩
  · have hq := h before y after hes (by rw [feed_cons_of_no_fault hfirst]; exact hok)
    rwa [List.reverse_cons, List.append_assoc] at hq
  · obtain ⟨hfirst, hrest⟩ := feed_cons_fault_eq_none hok
    rw [List.reverse_cons, List.append_assoc]
    exact h hfirst before y after hes hrest

/-! ## The states at end tags -/

/-- The states in which the end tags among events find a run and the compile service, up to the
first fault. -/
def atEnds (tools : Tools) (o : Options) : Run → Service → List Event → List (Run × Service)
  | _, _, [] => []
  | r, s, e :: es =>
    let first := r.step tools o s e
    let rest :=
      match first.fault with
      | some _ => []
      | none => atEnds tools o first.run first.service es
    match e with
    | .finish _ => (r, s) :: rest
    | _ => rest

/-- The states at the end tags after the first event: none if that has a fault. -/
def atEndsAfter (tools : Tools) (o : Options) (first : Step) (es : List Event) :
    List (Run × Service) :=
  match first.fault with
  | some _ => []
  | none => first.run.atEnds tools o first.service es

theorem atEnds_finish (tag : Text) (es : List Event) :
    r.atEnds tools o s (.finish tag :: es)
      = (r, s) :: atEndsAfter tools o (r.step tools o s (.finish tag)) es := rfl

theorem atEnds_cons {e : Event} (he : ∀ tag, e ≠ .finish tag) (es : List Event) :
    r.atEnds tools o s (e :: es) = atEndsAfter tools o (r.step tools o s e) es := by
  cases e with
  | finish tag => exact absurd rfl (he tag)
  | start tag attrs => rfl
  | data t => rfl
  | comment t => rfl

/-- The states at later end tags come last, whatever events they are. -/
theorem exists_atEnds_append (tools : Tools) (o : Options) (r : Run) (s : Service) (e : Event) :
    ∃ own, ∀ es, r.atEnds tools o s (e :: es)
      = own ++ atEndsAfter tools o (r.step tools o s e) es := by
  cases e with
  | finish tag => exact ⟨[(r, s)], atEnds_finish tag⟩
  | start tag attrs => exact ⟨[], atEnds_cons (by simp)⟩
  | data t => exact ⟨[], atEnds_cons (by simp)⟩
  | comment t => exact ⟨[], atEnds_cons (by simp)⟩

end Run

/-! ## What every run knows -/

namespace Transcript

/-- The run `r` knows the tags of `past`: the one started last, and the open ones whose blanks mean
something. -/
structure Knows (o : Options) (past : List Event) (r : Run) : Prop where
  /-- The tag started last. -/
  tag : r.tag = lastTag past
  /-- The open elements whose text keeps the blanks at its ends. -/
  ends : o.collapseWhitespace = true → r.keepEnds = (openOf keepsEnds past).reverse
  /-- The open elements whose text keeps its runs of blanks. -/
  runs : o.collapseWhitespace = true → r.keepRuns = (openOf keepsRuns past).reverse

theorem knows_opening (o : Options) : Knows o [] (Page.opening o) :=
  ⟨rfl, fun _ => rfl, fun _ => rfl⟩

theorem Follows.knows (h : Follows o past r) : Knows o past r := ⟨h.tag, h.ends, h.runs⟩

/-- All but the pending text is known; so the run follows its past if it is given the pending text
of the transcript. -/
theorem Knows.follows (h : Knows o past r) : Follows o past { r with pending := text o past } :=
  ⟨rfl, h.tag, h.ends, h.runs⟩

theorem Knows.normalize_eq (h : Knows o past r) (t : Text) :
    r.normalize o t = normal o past t := h.follows.normalize_eq t

/-- **Every event without a fault keeps that a run knows its tags.** -/
theorem step_knows (h : Knows o past r) {e : Event} (hok : (r.step tools o s e).fault = none) :
    Knows o (e :: past) (r.step tools o s e).run := by
  cases e with
  | start tag attrs =>
    obtain ⟨chunks, hrun⟩ := Run.start_inv hok
    show Knows o _ (r.start o tag attrs).1
    rw [hrun]
    exact ((h.follows.enter tag attrs).of_write chunks).knows
  | finish tag =>
    obtain ⟨text, chunks, -, hrun⟩ := Run.finish_inv hok
    show Knows o _ (r.finish tools o s tag).run
    rw [hrun]
    exact ⟨h.tag, fun hc => (h.follows.settle_kept tag text hc).1,
      fun hc => (h.follows.settle_kept tag text hc).2⟩
  | data t =>
    cases t with
    | none => exact ⟨h.tag, h.ends, h.runs⟩
    | some t => exact ⟨h.tag, h.ends, h.runs⟩
  | comment t => exact ⟨h.tag, h.ends, h.runs⟩

/-- **Every run without a fault knows its tags.** -/
theorem feed_knows {events : List Event}
    (hok : ((Page.opening o).feed tools o s events).fault = none) :
    Knows o events.reverse ((Page.opening o).feed tools o s events).run := by
  have h := Run.feed_invariant (P := Knows o) (fun past r s e _ h hok => step_knows h hok)
    (knows_opening o) hok
  rwa [List.append_nil] at h

end Transcript

end PagePress

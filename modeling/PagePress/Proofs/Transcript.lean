import PagePress.Session

/-!
# The transcript of a page

A run spreads its output over several places: chunks wait in the run until an end tag sends them on,
text waits until an end tag writes it, and what is left at the end is sent on by the page.  This
file shows that all of this amounts to one list that only grows, for events without a raw text
element and as long as no empty element is removed.

* `Transcript.chunks o past e` are the chunks that the event `e` makes after the events `past`.
  Everything it needs is read off `past` itself, which is given newest first: the tag started last
  (`lastTag`), the open elements of a class (`openOf`), and the text that the next end tag writes
  (`text`).
* `Transcript.page o events` puts the chunks of all events behind the document type.
* `Follows o past r` says that the run `r` has come to know of `past` what it needs.  Every event
  keeps that (`step_follows`), and so does a whole run (`feed_transcript`).
* `minifyEvents_emitted` concludes that what a page emits is its transcript.

The chunks of a transcript can be dealt out again: `parcels` finds those of every event by their
number alone.
-/

set_option autoImplicit false

namespace PagePress

/-- Start tags of the elements with raw text. -/
def Event.startsRaw : Event → Bool
  | .start tag _ => (RawKind.ofTag? tag.lower).isSome
  | _ => false

/-- The fault of an event where there is no raw text: that of the first attribute that has no
text. -/
def Event.fault? (o : Options) : Event → Option Fault
  | .start tag attrs => (Run.fragments o tag.lower attrs).2
  | _ => none

/-- Whether the end tag of `tag` is written. -/
def writesEnd (o : Options) (tag : Text) : Bool := !(o.removeOptionalTags && hasOptionalEnd tag)

/-- A property of all ways to split a list at one of its members can be read off the first member
and the rest. -/
theorem forall_split_cons {α : Type} {P : List α → α → List α → Prop} {x : α} {xs : List α} :
    (∀ before y after, x :: xs = before ++ y :: after → P before y after) ↔
      P [] x xs ∧ ∀ before y after, xs = before ++ y :: after → P (x :: before) y after := by
  constructor
  · intro h
    exact ⟨h [] x xs rfl, fun before y after hxs => h (x :: before) y after (by rw [hxs]; rfl)⟩
  · rintro ⟨hhead, htail⟩ before y after hsplit
    cases before with
    | nil =>
      obtain ⟨rfl, rfl⟩ := List.cons.inj hsplit
      exact hhead
    | cons z before =>
      obtain ⟨rfl, hxs⟩ := List.cons.inj hsplit
      exact htail before y after hxs

/-- The text of an attribute, empty also where it has none. -/
def Attribute.fragmentText (o : Options) (tag : Text) (a : Attribute) : Text :=
  (a.fragment o tag).toOption.getD []

/-! ## What the past says

The past of an event is the list of the events before it, newest first. -/

namespace Transcript

/-- The tag started last. -/
def lastTag : List Event → Text
  | [] => []
  | .start tag _ :: _ => tag.lower
  | _ :: past => lastTag past

/-- The open elements of a class, innermost first.  An end tag closes the innermost of them if it
has its name, and otherwise none. -/
def openOf (keeps : Text → Bool) : List Event → List Text
  | [] => []
  | .start tag _ :: past =>
    if keeps tag.lower then tag.lower :: openOf keeps past else openOf keeps past
  | .finish tag :: past =>
    if (openOf keeps past).head? = some tag then (openOf keeps past).tail else openOf keeps past
  | _ :: past => openOf keeps past

/-- Whether a class of elements has a say in how a text is written: one of them is open, or was
started last. -/
def governs (keeps : Text → Bool) (past : List Event) : Bool :=
  !(openOf keeps past).isEmpty || keeps (lastTag past)

/-- A text, normalised for where it stands. -/
def normal (o : Options) (past : List Event) (t : Text) : Text :=
  if o.collapseWhitespace then
    let t := if governs keepsEnds past then t else Text.strip t
    if governs keepsRuns past then t else Text.collapse t
  else t

/-- The text that an end tag writes: all texts since the last start tag and since the last end tag
that was written, in order. -/
def text (o : Options) : List Event → Text
  | [] => []
  | .start _ _ :: _ => []
  | .finish tag :: past => if writesEnd o tag then [] else text o past
  | .data none :: past => text o past
  | .data (some t) :: past => text o past ++ normal o past t
  | .comment _ :: past => text o past

/-- The chunks that an event makes. -/
def chunks (o : Options) (past : List Event) : Event → List Text
  | .start tag attrs => ['<'] :: tag.lower :: attrs.map (·.fragmentText o tag.lower) ++ [['>']]
  | .finish tag => text o past :: if writesEnd o tag then Run.endTag tag else []
  | .data _ => []
  | .comment t => [Comment.chunk o t]

/-- The chunks that events make after a past. -/
def body (o : Options) : List Event → List Event → List Text
  | _, [] => []
  | past, e :: es => chunks o past e ++ body o (e :: past) es

/-- The chunks of a page: its document type, and the chunks that its events make in order. -/
def page (o : Options) (events : List Event) : List Text :=
  Page.doctype o Page.longDoctype :: body o [] events

/-- Whether the next tag of events is an end tag. -/
def endsNext : List Event → Bool
  | [] => false
  | .start _ _ :: _ => false
  | .finish _ :: _ => true
  | _ :: es => endsNext es

theorem ofTag?_lastTag_cons {e : Event} {past : List Event} (he : e.startsRaw = false)
    (hpast : RawKind.ofTag? (lastTag past) = none) :
    RawKind.ofTag? (lastTag (e :: past)) = none := by
  cases e with
  | start tag attrs => simpa [Event.startsRaw, lastTag] using he
  | finish tag => exact hpast
  | data t => exact hpast
  | comment t => exact hpast

/-! ## The run knows its past -/

/-- The run `r` knows of `past` what it needs.  The lists of open elements are kept only where
blanks are collapsed; nothing reads them otherwise. -/
structure Follows (o : Options) (past : List Event) (r : Run) : Prop where
  /-- The pending text is the one that the next end tag writes. -/
  pending : r.pending = text o past
  /-- The tag started last. -/
  tag : r.tag = lastTag past
  /-- The open elements whose text keeps the blanks at its ends. -/
  ends : o.collapseWhitespace = true → r.keepEnds = (openOf keepsEnds past).reverse
  /-- The open elements whose text keeps its runs of blanks. -/
  runs : o.collapseWhitespace = true → r.keepRuns = (openOf keepsRuns past).reverse

variable {tools : Tools} {o : Options} {past : List Event} {r : Run} {s : Service}

theorem follows_opening (o : Options) : Follows o [] (Page.opening o) :=
  ⟨rfl, rfl, fun _ => rfl, fun _ => rfl⟩

/-- Nothing of what a run knows is in its chunks. -/
theorem Follows.of_write (h : Follows o past r) (cs : List Text) : Follows o past (r.write cs) :=
  ⟨h.pending, h.tag, h.ends, h.runs⟩

theorem Follows.normalize_eq (h : Follows o past r) (t : Text) :
    r.normalize o t = normal o past t := by
  by_cases hc : o.collapseWhitespace = true
  · have hends : (r.keepEnds.isEmpty && !keepsEnds r.tag) = !governs keepsEnds past := by
      rw [h.ends hc, h.tag, governs, List.isEmpty_reverse]; simp
    have hruns : (r.keepRuns.isEmpty && !keepsRuns r.tag) = !governs keepsRuns past := by
      rw [h.runs hc, h.tag, governs, List.isEmpty_reverse]; simp
    simp only [Run.normalize, normal, hc, hends, hruns]
    cases governs keepsEnds past <;> cases governs keepsRuns past <;> rfl
  · simp [Run.normalize, normal, hc]

/-- Leaving an element takes the innermost one off the list. -/
theorem leave_reverse (tag : Text) (kept : List Text) :
    Run.leave tag kept.reverse
      = (if kept.head? = some tag then kept.tail else kept).reverse := by
  cases kept with
  | nil => rfl
  | cons top rest =>
    rw [Run.leave, List.reverse_cons, List.getLast?_concat, List.dropLast_concat, List.head?_cons]
    by_cases h : top = tag
    · simp [h]
    · simp [h]

/-- What an end tag leaves behind in the lists of open elements. -/
theorem Follows.settle_kept (h : Follows o past r) (tag t : Text)
    (hc : o.collapseWhitespace = true) :
    (r.settle o tag t).keepEnds = (openOf keepsEnds (.finish tag :: past)).reverse ∧
      (r.settle o tag t).keepRuns = (openOf keepsRuns (.finish tag :: past)).reverse := by
  constructor
  · show (if o.collapseWhitespace then Run.leave tag r.keepEnds else r.keepEnds) = _
    rw [if_pos hc, h.ends hc, leave_reverse, openOf]
  · show (if o.collapseWhitespace then Run.leave tag r.keepRuns else r.keepRuns) = _
    rw [if_pos hc, h.runs hc, leave_reverse, openOf]

/-! ## One event -/

/-- Attributes without a fault are all written. -/
theorem fragments_of_no_fault {tag : Text} {attrs : Attributes}
    (h : (Run.fragments o tag attrs).2 = none) :
    (Run.fragments o tag attrs).1 = attrs.map (·.fragmentText o tag) ∧
      ∀ a ∈ attrs, ∃ t, a.fragment o tag = .ok t := by
  induction attrs with
  | nil => exact ⟨rfl, by simp⟩
  | cons a rest ih =>
    rw [Run.fragments] at h ⊢
    cases ha : a.fragment o tag with
    | error fault => simp [ha] at h
    | ok t =>
      simp only [ha] at h ⊢
      obtain ⟨htexts, hrest⟩ := ih h
      refine ⟨by simp [htexts, Attribute.fragmentText, ha, Except.toOption], ?_⟩
      intro b hb
      rcases List.mem_cons.mp hb with rfl | hb
      · exact ⟨t, ha⟩
      · exact hrest b hb

theorem start_eq (past : List Event) {tag : Text} {attrs : Attributes}
    (h : (Run.fragments o tag.lower attrs).2 = none) :
    r.start o tag attrs
      = ((r.enter o tag.lower attrs).write (chunks o past (.start tag attrs)), none) := by
  have htexts := (fragments_of_no_fault h).1
  rw [Run.start, chunks, ← htexts]
  split
  · rename_i texts fault heq
    rw [heq] at h
    cases h
  · rename_i texts heq
    rw [heq]

theorem start_fault (tag : Text) (attrs : Attributes) :
    (r.start o tag attrs).2 = (Run.fragments o tag.lower attrs).2 := by
  rw [Run.start]
  split <;> rename_i heq <;> rw [heq]

theorem Follows.enter (h : Follows o past r) (tag : Text) (attrs : Attributes) :
    Follows o (.start tag attrs :: past) (r.enter o tag.lower attrs) := by
  refine ⟨rfl, rfl, fun hc => ?_, fun hc => ?_⟩
  · rw [Run.enter, openOf, hc, h.ends hc]
    cases keepsEnds tag.lower <;> simp
  · rw [Run.enter, openOf, hc, h.runs hc]
    cases keepsRuns tag.lower <;> simp

theorem closing_eq {tag : Text} (hempty : o.removeEmptyElements = false) :
    r.closing o tag = if writesEnd o tag then .written else .implied := by
  rw [Run.closing, writesEnd, hempty]
  cases o.removeOptionalTags && hasOptionalEnd tag <;> simp

/-- An end tag writes the text of its element and, unless it is implied, itself; only then the text
is forgotten and all chunks are sent on. -/
theorem finish_of_text {tag t : Text} {s' : Service} (hempty : o.removeEmptyElements = false)
    (htext : r.closingText tools o s = (.ok t, s')) :
    r.finish tools o s tag =
      if writesEnd o tag then
        { run := { r.settle o tag t with chunks := [], pending := [] }
          service := s'
          emitted := r.chunks ++ t :: Run.endTag tag
          shelved := some (r.chunks ++ t :: Run.endTag tag) }
      else { run := r.settle o tag t, service := s' } := by
  rw [Run.finish, htext]
  show (r.settle o tag t).close o s' tag = _
  rw [Run.close, closing_eq hempty]
  cases writesEnd o tag
  · rfl
  · simp [Run.settle]

/-- Outside of raw text this is the pending text. -/
theorem finish_eq {tag : Text} (hempty : o.removeEmptyElements = false)
    (hraw : RawKind.ofTag? r.tag = none) :
    r.finish tools o s tag =
      if writesEnd o tag then
        { run := { r.settle o tag r.pending with chunks := [], pending := [] }
          service := s
          emitted := r.chunks ++ r.pending :: Run.endTag tag
          shelved := some (r.chunks ++ r.pending :: Run.endTag tag) }
      else { run := r.settle o tag r.pending, service := s } :=
  finish_of_text hempty (by rw [Run.closingText, hraw])

/-- Where there is no raw text and no element is removed, an event has a fault only by itself. -/
theorem step_fault (tools : Tools) (s : Service) (hempty : o.removeEmptyElements = false)
    (hraw : RawKind.ofTag? r.tag = none) (e : Event) :
    (r.step tools o s e).fault = e.fault? o := by
  cases e with
  | start tag attrs => exact start_fault tag attrs
  | finish tag =>
    rw [Run.step, finish_eq hempty hraw]
    split <;> rfl
  | data t => rfl
  | comment t => rfl

/-- **An event makes the chunks of the transcript**, and the run knows of it afterwards.  The chunks
are sent on or wait in the run. -/
theorem step_follows (tools : Tools) (s : Service) (hempty : o.removeEmptyElements = false)
    (hraw : RawKind.ofTag? r.tag = none) (h : Follows o past r) {e : Event}
    (he : e.fault? o = none) :
    Follows o (e :: past) (r.step tools o s e).run ∧
      (r.step tools o s e).emitted ++ (r.step tools o s e).run.chunks
        = r.chunks ++ chunks o past e := by
  cases e with
  | start tag attrs =>
    rw [Run.step, start_eq past he]
    exact ⟨(h.enter tag attrs).of_write _, by simp [Run.write, Run.enter]⟩
  | finish tag =>
    rw [Run.step, finish_eq hempty hraw, chunks, ← h.pending]
    by_cases hw : writesEnd o tag = true
    · rw [if_pos hw, if_pos hw]
      refine ⟨⟨by simp [text, hw], h.tag, fun hc => ?_, fun hc => ?_⟩, by simp⟩
      · exact (h.settle_kept tag r.pending hc).1
      · exact (h.settle_kept tag r.pending hc).2
    · rw [if_neg hw, if_neg hw]
      refine ⟨⟨?_, h.tag, fun hc => ?_, fun hc => ?_⟩, by simp [Run.settle]⟩
      · simp only [text, if_neg hw]
        exact h.pending
      · exact (h.settle_kept tag r.pending hc).1
      · exact (h.settle_kept tag r.pending hc).2
  | data t =>
    refine ⟨?_, by cases t <;> simp [Run.step, Run.data, chunks]⟩
    cases t with
    | none => exact ⟨h.pending, h.tag, h.ends, h.runs⟩
    | some t =>
      refine ⟨?_, h.tag, h.ends, h.runs⟩
      show r.pending ++ r.normalize o t = text o past ++ normal o past t
      rw [h.pending, h.normalize_eq]
  | comment t =>
    refine ⟨?_, by simp [Run.step, Run.comment, Run.write, chunks]⟩
    exact ⟨h.pending, h.tag, h.ends, h.runs⟩

/-! ## Many events -/

theorem feed_cons_of_fault {e : Event} {es : List Event} {fault : Fault}
    (h : (r.step tools o s e).fault = some fault) :
    r.feed tools o s (e :: es) = { r.step tools o s e with shelved := none } := by
  rw [Run.feed]
  simp only [h]

theorem feed_cons_of_no_fault {e : Event} {es : List Event}
    (h : (r.step tools o s e).fault = none) :
    r.feed tools o s (e :: es) =
      { (r.step tools o s e).run.feed tools o (r.step tools o s e).service es with
        emitted := (r.step tools o s e).emitted ++
          ((r.step tools o s e).run.feed tools o (r.step tools o s e).service es).emitted } := by
  rw [Run.feed]
  simp only [h]

/-- The fault of a run is that of its first event with one. -/
theorem feed_fault (hempty : o.removeEmptyElements = false) {events : List Event}
    (hplain : ∀ e ∈ events, e.startsRaw = false) (h : Follows o past r)
    (hraw : RawKind.ofTag? (lastTag past) = none) :
    (r.feed tools o s events).fault = events.findSome? (·.fault? o) := by
  induction events generalizing past r s with
  | nil => rfl
  | cons e es ih =>
    have hrtag : RawKind.ofTag? r.tag = none := by rw [h.tag, hraw]
    have hstep := step_fault tools s hempty hrtag e
    rw [List.findSome?_cons]
    cases he : e.fault? o with
    | some fault =>
      rw [he] at hstep
      rw [feed_cons_of_fault hstep]
      exact hstep
    | none =>
      rw [he] at hstep
      rw [feed_cons_of_no_fault hstep]
      exact ih (fun e' he' => hplain e' (List.mem_cons_of_mem _ he'))
        (step_follows tools s hempty hrtag h he).1
        (ofTag?_lastTag_cons (hplain e List.mem_cons_self) hraw)

/-- **A run makes the transcript of its events**, one part of it sent on and the rest waiting in the
run. -/
theorem feed_transcript (hempty : o.removeEmptyElements = false) {events : List Event}
    (hplain : ∀ e ∈ events, e.startsRaw = false) (hok : ∀ e ∈ events, e.fault? o = none)
    (h : Follows o past r) (hraw : RawKind.ofTag? (lastTag past) = none) :
    Follows o (events.reverse ++ past) (r.feed tools o s events).run ∧
      (r.feed tools o s events).emitted ++ (r.feed tools o s events).run.chunks
        = r.chunks ++ body o past events := by
  induction events generalizing past r s with
  | nil => exact ⟨h, by simp [Run.feed, body]⟩
  | cons e es ih =>
    have hrtag : RawKind.ofTag? r.tag = none := by rw [h.tag, hraw]
    have he : e.fault? o = none := hok e List.mem_cons_self
    obtain ⟨hnext, hchunks⟩ := step_follows tools s hempty hrtag h he
    obtain ⟨hlast, hrest⟩ := ih (s := (r.step tools o s e).service)
      (fun e' he' => hplain e' (List.mem_cons_of_mem _ he'))
      (fun e' he' => hok e' (List.mem_cons_of_mem _ he')) hnext
      (ofTag?_lastTag_cons (hplain e List.mem_cons_self) hraw)
    rw [feed_cons_of_no_fault ((step_fault tools s hempty hrtag e).trans he)]
    refine ⟨by simpa using hlast, ?_⟩
    show _ ++ _ ++ _ = _
    rw [List.append_assoc, hrest, ← List.append_assoc, hchunks, List.append_assoc, body]

/-! ## A whole page -/

theorem flush_fault (step : Step) : (Page.flush step).fault = step.fault := by
  rw [Page.flush]
  split <;> simp_all

theorem flush_of_fault {step : Step} {fault : Fault} (h : step.fault = some fault) :
    Page.flush step = step := by
  rw [Page.flush]
  simp only [h]

theorem flush_emitted {step : Step} (h : step.fault = none) :
    (Page.flush step).emitted = step.emitted ++ step.run.chunks := by
  rw [Page.flush]
  simp only [h]

theorem minifyEvents_fault (hempty : o.removeEmptyElements = false) {events : List Event}
    (hplain : ∀ e ∈ events, e.startsRaw = false) :
    (Page.minifyEvents tools o s events).fault = events.findSome? (·.fault? o) := by
  rw [Page.minifyEvents, flush_fault]
  exact feed_fault hempty hplain (follows_opening o) rfl

theorem minifyEvents_fault_eq_none_iff (hempty : o.removeEmptyElements = false)
    {events : List Event} (hplain : ∀ e ∈ events, e.startsRaw = false) :
    (Page.minifyEvents tools o s events).fault = none ↔ ∀ e ∈ events, e.fault? o = none := by
  rw [minifyEvents_fault hempty hplain, List.findSome?_eq_none_iff]

/-- **A page emits its transcript.** -/
theorem minifyEvents_emitted (hempty : o.removeEmptyElements = false) {events : List Event}
    (hplain : ∀ e ∈ events, e.startsRaw = false)
    (hok : (Page.minifyEvents tools o s events).fault = none) :
    (Page.minifyEvents tools o s events).emitted = page o events := by
  have hevents := (minifyEvents_fault_eq_none_iff hempty hplain).1 hok
  rw [Page.minifyEvents, flush_fault] at hok
  rw [Page.minifyEvents, flush_emitted hok,
    (feed_transcript hempty hplain hevents (follows_opening o) rfl).2]
  rfl

/-! ## Dealing the chunks out

An event makes a fixed number of chunks, whatever its past is.  So the chunks of every event can be
found in a finished page by counting. -/

/-- The number of chunks that an event makes. -/
def width (o : Options) : Event → Nat
  | .start _ attrs => attrs.length + 3
  | .finish tag => if writesEnd o tag then 4 else 1
  | .data _ => 0
  | .comment _ => 1

/-- Chunks, dealt out to the events that made them. -/
def parcels (o : Options) : List Event → List Text → List (Event × List Text)
  | [], _ => []
  | e :: es, cs => (e, cs.take (width o e)) :: parcels o es (cs.drop (width o e))

theorem length_chunks (o : Options) (past : List Event) (e : Event) :
    (chunks o past e).length = width o e := by
  cases e with
  | start tag attrs => simp [chunks, width]
  | finish tag =>
    rw [chunks, width]
    cases writesEnd o tag <;> rfl
  | data t => rfl
  | comment t => rfl

theorem parcels_body_cons (o : Options) (past : List Event) (e : Event) (es : List Event) :
    parcels o (e :: es) (body o past (e :: es))
      = (e, chunks o past e) :: parcels o es (body o (e :: past) es) := by
  rw [parcels, body, ← length_chunks o past e, List.take_left, List.drop_left]

end Transcript

/-! ## The closed form of a page -/

/-- The settings in force by default turn on the default options. -/
theorem Settings.options_default : Settings.default.options = {} := by decide +kernel

namespace Session

theorem minify_results (s : Session) (name : Text) (m : Minifier) (c : Char) (cs : Text)
    (events : List Event) :
    (s.minify name m (some (c :: cs, .ok events))).1.results =
      s.results ++
        (Page.minifyEvents s.tools m.settings.options s.service events).emitted := rfl

theorem minify_answer (s : Session) (name : Text) (m : Minifier) (c : Char) (cs : Text)
    (events : List Event) :
    (s.minify name m (some (c :: cs, .ok events))).2.answer =
      match (Page.minifyEvents s.tools m.settings.options s.service events).fault with
      | some fault => .error fault
      | none =>
        .ok (.text (Chunk.page (s.results ++
          (Page.minifyEvents s.tools m.settings.options s.service events).emitted))) := rfl

/-- **The closed form of a page.**  A minifier whose results are empty and that does not fail leaves
the transcript of the events as its results, in which every attribute has a text, and answers with
the tidied chunks of the transcript, joined. -/
theorem minify_transcript (s : Session) (name : Text) (m : Minifier) (c : Char) (cs : Text)
    (events : List Event) (answer : Answer) (hfresh : s.results = [])
    (hempty : m.settings.options.removeEmptyElements = false)
    (hplain : ∀ e ∈ events, e.startsRaw = false)
    (hok : (s.minify name m (some (c :: cs, .ok events))).2.answer = .ok answer) :
    (s.minify name m (some (c :: cs, .ok events))).1.results
        = Transcript.page m.settings.options events ∧
      answer = .text ((Transcript.page m.settings.options events).flatMap Chunk.tidy) ∧
      ∀ tag attrs, .start tag attrs ∈ events →
        ∀ a ∈ attrs, ∃ t, a.fragment m.settings.options tag.lower = .ok t := by
  rw [minify_answer] at hok
  cases hfault : (Page.minifyEvents s.tools m.settings.options s.service events).fault with
  | some fault => rw [hfault] at hok; cases hok
  | none =>
    have hemitted := Transcript.minifyEvents_emitted hempty hplain hfault
    rw [hfault, hfresh, List.nil_append, hemitted] at hok
    refine ⟨by rw [minify_results, hfresh, List.nil_append, hemitted], ?_, ?_⟩
    · cases hok
      rfl
    · intro tag attrs hstart
      have hevent := (Transcript.minifyEvents_fault_eq_none_iff hempty hplain).1 hfault _ hstart
      exact (Transcript.fragments_of_no_fault hevent).2

/-- The closed form at a page with a tag that is implied, after which its text is written again. -/
theorem minify_transcript_select :
    let events : List Event :=
      [.start "SELECT" [⟨"ID", some "s"⟩], .start "option" [], .data (some " a  b "),
        .finish "option", .comment "[if IE]", .data (some "c"), .finish "select"]
    (∀ e ∈ events, e.startsRaw = false) ∧
      (({} : Session).minify [] {} (some (['x'], .ok events))).1.results
        = ([("<!DOCTYPE html>" : Text), "<", "select", " id=s", ">", "<", "option", ">", "a b",
            "<not --[if IE]-->", "a bc", "</", "select", ">"] : List Text) ∧
      (({} : Session).minify [] {} (some (['x'], .ok events))).2.answer = .ok (.text
        ("<!DOCTYPE html><select id=s><option>a b<not --[if IE]-->a bc</select>" : Text)) := by
  intro events
  have hoptions : ({} : Minifier).settings.options = {} := Settings.options_default
  have hplain : ∀ e ∈ events, e.startsRaw = false := by decide +kernel
  have hok := minify_answer {} [] {} 'x' [] events
  have hfault : (Page.minifyEvents {} {} { replies := [] } events).fault = none := by
    decide +kernel
  rw [hoptions, hfault] at hok
  obtain ⟨hresults, hanswer, -⟩ :=
    minify_transcript {} [] {} 'x' [] events _ rfl (by rw [hoptions]) hplain hok
  rw [hoptions] at hresults hanswer
  have hpage : (Transcript.page {} events).flatMap Chunk.tidy
      = ("<!DOCTYPE html><select id=s><option>a b<not --[if IE]-->a bc</select>" : Text) := by
    decide +kernel
  refine ⟨hplain, hresults.trans (by decide +kernel), ?_⟩
  rw [hok, hanswer, hpage]

end Session

end PagePress

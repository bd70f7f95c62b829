import PagePress.Proofs.Faults
import PagePress.Proofs.Handover

/-!
# Removing empty elements

An end tag that finds its element empty looks for the last chunk that opens a tag, among those that
wait in the run, and goes on with the chunks from there on.  This file says what that does to the
output, and when there is no such chunk.

The first part is about an element that ends where it starts.

* `leftover` are the chunks that are left of it: its start tag.
* `output_start_finish_iff` shows that what is taken away is not the element, but all that waited
  before it.  So the output is as before only if that was the same text.

The second part is about whole pages, where nothing is compacted.

* `settled` and `opens` read off the past what decides about an end tag: the text of the element,
  and whether a chunk that waits opens a tag.  Every run tracks both (`Tracks`, `step_tracks`).
* An end tag is `stranded` if its element is to be removed and no chunk opens a tag.  This is the
  one fault there is (`Tracks.feed_fault`).
* `stranded_eq_false` shows that it takes an element inside of one of the same name.
* `minify_ok_iff_not_stranded` puts this together.
-/

set_option autoImplicit false

namespace PagePress

open Transcript

variable {tools : Tools} {o : Options} {past : List Event} {r : Run} {s : Service}

/-! ## The last chunk that opens a tag -/

namespace Run

theorem fromLastOpening?_eq_none_iff {cs : List Text} :
    fromLastOpening? cs = none ↔ ['<'] ∉ cs := by
  induction cs with
  | nil => simp [fromLastOpening?]
  | cons c cs ih =>
    rw [fromLastOpening?, List.mem_cons, not_or, ← ih]
    cases fromLastOpening? cs with
    | some tail => simp
    | none =>
      by_cases hc : c = ['<']
      · simp [hc]
      · simp [hc, Ne.symm hc]

theorem fromLastOpening?_append (cs : List Text) {ds : List Text} (h : ['<'] ∉ ds) :
    fromLastOpening? (cs ++ ['<'] :: ds) = some (['<'] :: ds) := by
  induction cs with
  | nil =>
    rw [List.nil_append, fromLastOpening?, fromLastOpening?_eq_none_iff.2 h]
    rfl
  | cons c cs ih => rw [List.cons_append, fromLastOpening?, ih]

theorem mem_fromLastOpening? {cs tail : List Text} (h : fromLastOpening? cs = some tail) :
    ['<'] ∈ tail := by
  induction cs with
  | nil => simp [fromLastOpening?] at h
  | cons c cs ih =>
    rw [fromLastOpening?] at h
    split at h
    · rename_i rest hrest
      cases h
      exact ih hrest
    · split at h
      · rename_i hc
        cases h
        exact List.mem_cons.2 (.inl (eq_of_beq hc).symm)
      · cases h

end Run

/-- The text of an attribute is no opening mark: it is empty or starts with a space. -/
theorem Attribute.fragmentText_ne_mark (o : Options) (tag : Text) (a : Attribute) :
    a.fragmentText o tag ≠ ['<'] := by
  have hof : ∀ name value, fragmentOf o tag name value ≠ ['<'] := by
    intro name value
    rw [fragmentOf]
    split
    · simp
    · split <;> simp
  rw [fragmentText, fragment]
  split
  · simp [Except.toOption]
  · simp [Except.toOption]
  · exact hof _ _

/-! ## An element that ends where it starts -/

/-- All chunks up to now: those that are sent on, and those that wait. -/
def Step.output (step : Step) : List Text := step.emitted ++ step.run.chunks

/-- What is left of an element that is removed: the chunks of its start tag.  A tag that is itself
an opening mark is taken for the beginning of the start tag. -/
def Transcript.leftover (o : Options) (tag : Text) (attrs : Attributes) : List Text :=
  (chunks o [] (.start tag attrs)).drop (if tag.lower = ['<'] then 1 else 0)

namespace Run

/-- The search for the start tag of an empty element finds it. -/
theorem fromLastOpening?_start (cs : List Text) (tag : Text) (attrs : Attributes) :
    fromLastOpening? (cs ++ Transcript.chunks o [] (.start tag attrs) ++ [[]])
      = some (leftover o tag attrs ++ [[]]) := by
  have hrest : ['<'] ∉ attrs.map (·.fragmentText o tag.lower) ++ [['>'], []] := by
    simp only [List.mem_append, List.mem_map, not_or, not_exists, not_and]
    exact ⟨fun a _ => a.fragmentText_ne_mark o tag.lower, by simp⟩
  by_cases htag : tag.lower = ['<']
  · have h := fromLastOpening?_append (cs ++ [['<']]) hrest
    simpa [leftover, Transcript.chunks, htag] using h
  · have hrest' : ['<'] ∉ tag.lower :: (attrs.map (·.fragmentText o tag.lower) ++ [['>'], []]) :=
      fun h => (List.mem_cons.1 h).elim (fun heq => htag heq.symm) hrest
    have h := fromLastOpening?_append cs hrest'
    simpa [leftover, Transcript.chunks, htag] using h

/-- Nothing is compacted where nothing waits. -/
theorem closingText_of_pending_nil (h : r.pending = []) :
    r.closingText tools o s = (.ok [], s) := by
  rw [closingText, h]
  cases RawKind.ofTag? r.tag with
  | none => rfl
  | some kind => cases kind <;> simp [unwrap_nil, Text.allBlank]

theorem feed_singleton (e : Event) :
    r.feed tools o s [e] = { r.step tools o s e with shelved := none } := by
  cases hfault : (r.step tools o s e).fault with
  | some fault => rw [feed_cons_of_fault hfault]
  | none =>
    rw [feed_cons_of_no_fault hfault]
    simp [feed, hfault]

/-- The run at the end of an element that ends where it starts. -/
def emptied (o : Options) (r : Run) (tag : Text) (attrs : Attributes) : Run :=
  ((r.enter o tag.lower attrs).write (Transcript.chunks o [] (.start tag attrs))).settle o tag []

theorem emptied_chunks (o : Options) (r : Run) (tag : Text) (attrs : Attributes) :
    (r.emptied o tag attrs).chunks
      = r.chunks ++ Transcript.chunks o [] (.start tag attrs) ++ [[]] := rfl

theorem feed_start_finish {tag : Text} {attrs : Attributes}
    (hstart : (r.start o tag attrs).2 = none) :
    r.feed tools o s [.start tag attrs, .finish tag]
      = { (r.emptied o tag attrs).close o s tag with shelved := none } := by
  have hrun := start_eq (r := r) [] ((start_fault tag attrs).symm.trans hstart)
  have hok : (r.step tools o s (.start tag attrs)).fault = none := hstart
  rw [feed_cons_of_no_fault hok, feed_singleton, step, hrun]
  dsimp only
  rw [step, finish, closingText_of_pending_nil rfl]
  rfl

/-- An element whose tag is in lower case is found empty.  All that waited is dropped for it, and
its own start tag stays. -/
theorem feed_start_finish_removed {tag : Text} {attrs : Attributes}
    (hremove : o.removeEmptyElements = true) (htag : isRemovable tag = true)
    (hlower : tag.lower = tag) (hstart : (r.start o tag attrs).2 = none) :
    (r.feed tools o s [.start tag attrs, .finish tag]).fault = none ∧
      (r.feed tools o s [.start tag attrs, .finish tag]).emitted = [] ∧
      (r.feed tools o s [.start tag attrs, .finish tag]).run.chunks
        = leftover o tag attrs ++ [[]] := by
  have hclosing : (r.emptied o tag attrs).closing o tag
      = .removed (leftover o tag attrs ++ [[]]) := by
    have hempty : (o.removeEmptyElements && (r.emptied o tag attrs).pending.isEmpty &&
        tag == (r.emptied o tag attrs).tag && isRemovable tag) = true := by
      simp [hremove, htag, emptied, settle, write, enter, hlower]
    rw [closing, if_pos hempty, emptied_chunks, fromLastOpening?_start]
  rw [feed_start_finish hstart, close, hclosing]
  exact ⟨rfl, rfl, rfl⟩

/-- An element whose tag is not in lower case is not found empty, as the run keeps the lower-case
tag.  Nothing is dropped. -/
theorem feed_start_finish_written {tag : Text} {attrs : Attributes} (hlower : tag.lower ≠ tag)
    (hstart : (r.start o tag attrs).2 = none) :
    (r.feed tools o s [.start tag attrs, .finish tag]).fault = none ∧
      ∃ more, (r.feed tools o s [.start tag attrs, .finish tag]).output
        = r.chunks ++ Transcript.chunks o [] (.start tag attrs) ++ more := by
  have hclosing : (r.emptied o tag attrs).closing o tag
      = if writesEnd o tag then .written else .implied := by
    have hname : ¬ tag = (r.emptied o tag attrs).tag := fun h => hlower h.symm
    rw [closing, if_neg (by simp [hname]), writesEnd]
    cases o.removeOptionalTags && hasOptionalEnd tag <;> rfl
  rw [feed_start_finish hstart, close, hclosing]
  cases writesEnd o tag with
  | false => exact ⟨rfl, [[]], rfl⟩
  | true => exact ⟨rfl, [] :: endTag tag, by simp [Step.output, emptied_chunks]⟩

end Run

namespace Page

/-- **What the removal of an empty element does to the output.**  In every state that a page comes
to, an element that ends where it starts has no fault.  If its tag is in lower case, then all chunks
that waited before it are dropped while its start tag stays, so that the output is the same as
before exactly if what waited was the very text of the start tag.  If not, then the end tag does not
know the element again, and the output grows. -/
theorem output_start_finish_iff (tools : Tools) (o : Options) (s : Service) (events : List Event)
    (results : List Text) (tag : Text) (attrs : Attributes)
    (hremove : o.removeEmptyElements = true)
    (hok : ((opening o).feed tools o s events).fault = none) (htag : tag ≠ "textarea")
    (hstart : (((opening o).feed tools o s events).run.start o tag attrs).2 = none) :
    let before := (opening o).feed tools o s events
    let after := (opening o).feed tools o s (events ++ [.start tag attrs, .finish tag])
    after.fault = none ∧
      (tag.lower = tag → after.emitted = before.emitted ∧
        after.run.chunks.flatten = (leftover o tag attrs).flatten) ∧
      ((results ++ after.output).flatten = (results ++ before.output).flatten ↔
        tag.lower = tag ∧ before.run.chunks.flatten = (leftover o tag attrs).flatten) := by
  intro before after
  let last := before.run.feed tools o before.service [.start tag attrs, .finish tag]
  have hafter : after = { last with emitted := before.emitted ++ last.emitted } :=
    Run.feed_append hok _
  by_cases hlower : tag.lower = tag
  · obtain ⟨hfault, hemitted, hchunks⟩ : last.fault = none ∧ last.emitted = [] ∧
        last.run.chunks = leftover o tag attrs ++ [[]] :=
      Run.feed_start_finish_removed hremove (by simpa [isRemovable] using htag) hlower hstart
    rw [hafter]
    refine ⟨hfault, fun _ => ⟨by simp [hemitted], by simp [hchunks]⟩, ?_⟩
    simp [Step.output, hemitted, hchunks, hlower, eq_comm]
  · obtain ⟨hfault, more, houtput⟩ : last.fault = none ∧ ∃ more, last.output
        = before.run.chunks ++ chunks o [] (.start tag attrs) ++ more :=
      Run.feed_start_finish_written hlower hstart
    have hsame : after.output = before.output ++ (chunks o [] (.start tag attrs) ++ more) := by
      rw [hafter, Step.output, Step.output, List.append_assoc, ← Step.output, houtput]
      simp
    refine ⟨by rw [hafter]; exact hfault, fun h => absurd h hlower, ?_⟩
    rw [hsame]
    simp [hlower, chunks]

/-- A second empty element like the first leaves the output as it is: what waits is the start tag of
the first. -/
theorem output_start_finish_iff_again :
    let o : Options := { removeEmptyElements := true }
    let events : List Event := [.start "p" [], .start "B" [⟨"id", some "x"⟩], .finish "b"]
    let before := (opening o).feed {} o { replies := [] } events
    let after := (opening o).feed {} o { replies := [] }
      (events ++ [.start "b" [⟨"ID", some "x"⟩], .finish "b"])
    before.fault = none ∧ after.output.flatten = before.output.flatten := by
  intro o events before after
  have hok : before.fault = none := by decide +kernel
  have hstart : (before.run.start o "b" [⟨"ID", some "x"⟩]).2 = none := by decide +kernel
  have hwaits : before.run.chunks.flatten = (leftover o "b" [⟨"ID", some "x"⟩]).flatten := by
    decide +kernel
  have hiff := (output_start_finish_iff {} o { replies := [] } events [] "b" [⟨"ID", some "x"⟩] rfl
    hok (by decide) hstart).2.2
  rw [List.nil_append, List.nil_append] at hiff
  exact ⟨hok, hiff.2 ⟨by decide +kernel, hwaits⟩⟩

/-- An empty element at the beginning of a page takes the document type away, and stays. -/
theorem output_start_finish_first :
    let o : Options := { removeEmptyElements := true }
    let before := (opening o).feed {} o { replies := [] } []
    let after := (opening o).feed {} o { replies := [] } [.start "b" [], .finish "b"]
    before.fault = none ∧ (before.run.start o "b" []).2 = none ∧
      before.output.flatten = "<!DOCTYPE html>".toList ∧ after.output.flatten = "<b>".toList := by
  decide +kernel

end Page

/-! ## Empty elements whose start tag is gone -/

namespace Transcript

/-- The text that waits for an end tag where nothing is compacted.  An end tag that is implied does
not forget it, but leaves it without the wrappers of raw text. -/
def waiting (o : Options) : List Event → Text
  | [] => []
  | .start _ _ :: _ => []
  | .finish tag :: past =>
    if writesEnd o tag then [] else Wrapper.unwrapIn o (lastTag past) (waiting o past)
  | .data none :: past => waiting o past
  | .data (some t) :: past => waiting o past ++ normal o past t
  | .comment _ :: past => waiting o past

/-- The text of the element that ends. -/
def settled (o : Options) (past : List Event) : Text :=
  Wrapper.unwrapIn o (lastTag past) (waiting o past)

/-- Whether an end tag takes its element for an empty one that can be removed. -/
def endsEmpty (o : Options) (past : List Event) (tag : Text) : Bool :=
  (settled o past).isEmpty && tag == lastTag past && isRemovable tag

/-- Whether a chunk that waits opens a tag.  A start tag writes one, and an end tag that is written
sends it on with all that waits.  The text of an end tag that is implied waits, too, and may be
taken for one. -/
def opens (o : Options) : List Event → Bool
  | [] => false
  | .start _ _ :: _ => true
  | .finish tag :: past =>
    if endsEmpty o past tag then opens o past
    else !writesEnd o tag && (opens o past || settled o past == ['<'])
  | _ :: past => opens o past

/-- Whether an end tag is to remove an element and no chunk that waits opens a tag. -/
def stranded (o : Options) (past : List Event) (tag : Text) : Bool :=
  endsEmpty o past tag && !opens o past

/-- The run `r` knows the tags of `past`, the text that waits, and the opening marks that do. -/
structure Tracks (o : Options) (past : List Event) (r : Run) : Prop extends Knows o past r where
  /-- The text that waits for an end tag. -/
  pending : r.pending = waiting o past
  /-- Whether a chunk that waits opens a tag. -/
  marks : ['<'] ∈ r.chunks ↔ opens o past = true

theorem tracks_opening (o : Options) : Tracks o [] (Page.opening o) := by
  refine ⟨knows_opening o, rfl, ?_⟩
  have hdoctype : Page.doctype o Page.longDoctype ≠ ['<'] := by
    rw [Page.doctype]
    cases o.useShortDoctype <;> decide +kernel
  simp [Page.opening, opens, hdoctype.symm]

/-! ### One event -/

/-- How an element is closed by a run that tracks its past. -/
theorem Tracks.closing_eq (h : Tracks o past r) (hremove : o.removeEmptyElements = true)
    (tag : Text) :
    (r.settle o tag (settled o past)).closing o tag =
      if endsEmpty o past tag then
        match Run.fromLastOpening? (r.chunks ++ [settled o past]) with
        | some tail => .removed tail
        | none => .unopened
      else if writesEnd o tag then .written else .implied := by
  have hempty : (o.removeEmptyElements && (r.settle o tag (settled o past)).pending.isEmpty &&
      tag == (r.settle o tag (settled o past)).tag && isRemovable tag) = endsEmpty o past tag := by
    show (o.removeEmptyElements && (settled o past).isEmpty && tag == r.tag && isRemovable tag) = _
    rw [hremove, h.tag, endsEmpty, Bool.true_and]
  rw [Run.closing, hempty, writesEnd]
  by_cases hremoved : endsEmpty o past tag = true
  · rw [if_pos hremoved, if_pos hremoved]
    rfl
  · rw [if_neg hremoved, if_neg hremoved]
    cases o.removeOptionalTags && hasOptionalEnd tag <;> rfl

/-- **What an end tag does where empty elements are removed.**  It has a fault exactly if it is
stranded, and otherwise the run keeps track. -/
theorem Tracks.finish_cases (tools : Tools) (s : Service) (h : Tracks o past r)
    (hremove : o.removeEmptyElements = true) (hjs : o.minifyJS = false)
    (hcss : o.minifyCSS = false) (tag : Text) :
    (stranded o past tag = true ∧ (r.finish tools o s tag).fault = some .noOpening) ∨
      (stranded o past tag = false ∧ (r.finish tools o s tag).fault = none ∧
        (r.finish tools o s tag).run.pending = waiting o (.finish tag :: past) ∧
        (['<'] ∈ (r.finish tools o s tag).run.chunks ↔ opens o (.finish tag :: past) = true)) := by
  have hfinish : r.finish tools o s tag = (r.settle o tag (settled o past)).close o s tag := by
    rw [Run.finish, Run.closingText_uncompacted hjs hcss, h.tag, h.pending]
    rfl
  rw [hfinish, Run.close, h.closing_eq hremove]
  by_cases hempty : endsEmpty o past tag = true
  · have hnil : settled o past = [] := by
      simp only [endsEmpty, Bool.and_eq_true, List.isEmpty_iff] at hempty
      exact hempty.1.1
    have hmarks : ['<'] ∈ r.chunks ++ [settled o past] ↔ opens o past = true := by
      rw [hnil, ← h.marks]
      simp
    rw [if_pos hempty]
    cases htail : Run.fromLastOpening? (r.chunks ++ [settled o past]) with
    | none =>
      rw [Run.fromLastOpening?_eq_none_iff, hmarks] at htail
      exact .inl ⟨by simp [stranded, hempty, htail], rfl⟩
    | some tail =>
      have hopens : opens o past = true := by
        by_contra hnot
        rw [← hmarks, ← Run.fromLastOpening?_eq_none_iff, htail] at hnot
        cases hnot
      refine .inr ⟨by simp [stranded, hopens], rfl, ?_, ?_⟩
      · show settled o past = _
        rw [waiting, ← settled, hnil, ite_self]
      · rw [opens, if_pos hempty]
        exact iff_of_true (Run.mem_fromLastOpening? htail) hopens
  · rw [if_neg hempty]
    refine .inr ⟨by simp [stranded, hempty], ?_⟩
    rw [waiting, ← settled, opens, if_neg hempty]
    cases writesEnd o tag with
    | true => exact ⟨rfl, rfl, by simp⟩
    | false =>
      refine ⟨rfl, rfl, ?_⟩
      show ['<'] ∈ r.chunks ++ [settled o past] ↔ _
      rw [List.mem_append, List.mem_singleton, h.marks, Bool.not_false, Bool.true_and,
        Bool.or_eq_true, beq_iff_eq, @eq_comm _ ['<']]

/-- The chunk of a comment opens no tag. -/
theorem comment_ne_mark (o : Options) (t : Text) : Comment.chunk o t ≠ ['<'] := by
  rw [Comment.chunk]
  split
  · split
    · simp
    · simp
  · simp

/-- **Every event without a fault keeps that a run tracks its past**, where nothing is compacted and
empty elements are removed. -/
theorem step_tracks (h : Tracks o past r) (hremove : o.removeEmptyElements = true)
    (hjs : o.minifyJS = false) (hcss : o.minifyCSS = false) {e : Event}
    (hok : (r.step tools o s e).fault = none) : Tracks o (e :: past) (r.step tools o s e).run := by
  have hknows := step_knows h.toKnows hok
  cases e with
  | start tag attrs =>
    have hrun : (r.step tools o s (.start tag attrs)).run
        = (r.enter o tag.lower attrs).write (chunks o past (.start tag attrs)) := by
      rw [Run.step, start_eq past ((start_fault tag attrs).symm.trans hok)]
    refine ⟨hknows, ?_, ?_⟩
    · rw [hrun]
      rfl
    · rw [hrun, opens]
      simp [Run.write, chunks]
  | finish tag =>
    rcases h.finish_cases tools s hremove hjs hcss tag with
      ⟨-, hfault⟩ | ⟨-, -, hpending, hmarks⟩
    · cases hfault.symm.trans hok
    · exact ⟨hknows, hpending, hmarks⟩
  | data t =>
    cases t with
    | none => exact ⟨hknows, h.pending, h.marks⟩
    | some t =>
      refine ⟨hknows, ?_, h.marks⟩
      show r.pending ++ r.normalize o t = waiting o past ++ normal o past t
      rw [h.pending, h.normalize_eq]
  | comment t =>
    refine ⟨hknows, h.pending, ?_⟩
    show ['<'] ∈ r.chunks ++ [Comment.chunk o t] ↔ opens o past = true
    rw [← h.marks]
    simp [(comment_ne_mark o t).symm]

/-- Whether an event is an end tag that is stranded. -/
def strands (o : Options) (past : List Event) : Event → Bool
  | .finish tag => stranded o past tag
  | _ => false

theorem Tracks.step_fault (tools : Tools) (s : Service) (h : Tracks o past r)
    (hremove : o.removeEmptyElements = true) (hjs : o.minifyJS = false)
    (hcss : o.minifyCSS = false) {e : Event} (he : e.fault? o = none) :
    (r.step tools o s e).fault = if strands o past e then some .noOpening else none := by
  cases e with
  | start tag attrs => exact (start_fault tag attrs).trans he
  | finish tag =>
    rcases h.finish_cases tools s hremove hjs hcss tag with
      ⟨hstranded, hfault⟩ | ⟨hstranded, hfault, -⟩
    · rw [strands, hstranded]
      exact hfault
    · rw [strands, hstranded]
      exact hfault
  | data t => rfl
  | comment t => rfl

/-! ### Many events -/

/-- **When a run comes through** where empty elements are removed: no end tag is stranded.  If one
is, then that is the fault. -/
theorem Tracks.feed_fault (h : Tracks o past r) (hremove : o.removeEmptyElements = true)
    (hjs : o.minifyJS = false) (hcss : o.minifyCSS = false) {events : List Event}
    (hok : ∀ e ∈ events, e.fault? o = none) :
    ((r.feed tools o s events).fault = none ∧
        ∀ before e after, events = before ++ e :: after →
          strands o (before.reverse ++ past) e = false) ∨
      ((r.feed tools o s events).fault = some .noOpening ∧
        ∃ before e after, events = before ++ e :: after ∧
          strands o (before.reverse ++ past) e = true) := by
  induction events generalizing past r s with
  | nil => exact .inl ⟨rfl, by simp⟩
  | cons e es ih =>
    have hstep := h.step_fault tools s hremove hjs hcss (hok e List.mem_cons_self)
    cases hstrands : strands o past e with
    | true =>
      rw [hstrands, if_pos rfl] at hstep
      refine .inr ⟨?_, [], e, es, rfl, hstrands⟩
      rw [feed_cons_of_fault hstep]
      exact hstep
    | false =>
      rw [hstrands] at hstep
      have hfirst : (r.step tools o s e).fault = none := hstep
      rw [feed_cons_of_no_fault hfirst, forall_split_cons]
      rcases ih (s := (r.step tools o s e).service) (step_tracks h hremove hjs hcss hfirst)
        (fun e' he' => hok e' (List.mem_cons_of_mem _ he')) with
        ⟨hrest, hall⟩ | ⟨hrest, before, y, after, hsplit, hy⟩
      · refine .inl ⟨hrest, hstrands, fun before y after hsplit => ?_⟩
        rw [List.reverse_cons, List.append_assoc]
        exact hall before y after hsplit
      · refine .inr ⟨hrest, e :: before, y, after, by rw [hsplit]; rfl, ?_⟩
        rw [List.reverse_cons, List.append_assoc]
        exact hy

/-! ### Elements inside of elements of the same name -/

/-- Events that are properly nested stay so after any of them. -/
theorem wellNested_suffix {names : Text → Text → Bool} {before after : List Event}
    (h : wellNested names (openElements past) (before ++ after) = true) :
    wellNested names (openElements (before.reverse ++ past)) after = true := by
  induction before generalizing past with
  | nil => exact h
  | cons e es ih =>
    rw [List.reverse_cons, List.append_assoc]
    exact ih (wellNested_tail h)

/-- The element started last has a name of its own among the elements around it; and where no chunk
that waits opens a tag, no open element has its name. -/
structure Apart (o : Options) (past : List Event) : Prop where
  /-- No element around the innermost open one has the name. -/
  around : lastTag past ∉ (openElements past).tail
  /-- If no chunk that waits opens a tag, then the element has ended. -/
  gone : opens o past = true ∨ lastTag past ∉ openElements past

theorem Apart.cons (h : Apart o past) {e : Event}
    (he : ∀ tag attrs, e = .start tag attrs → tag.lower ∉ openElements past) :
    Apart o (e :: past) := by
  cases e with
  | start tag attrs => exact ⟨he tag attrs rfl, .inl rfl⟩
  | finish tag =>
    -- one open element less: the one started last, or one around it
    exact ⟨fun hmem => h.around (List.mem_of_mem_tail hmem), .inr h.around⟩
  | data t => exact ⟨h.around, h.gone⟩
  | comment t => exact ⟨h.around, h.gone⟩

theorem Apart.append (h : Apart o past) {before : List Event} (after : List Event)
    (hapart : ∀ front tag attrs back, before ++ after = front ++ .start tag attrs :: back →
      tag.lower ∉ openElements (front.reverse ++ past)) :
    Apart o (before.reverse ++ past) := by
  induction before generalizing past with
  | nil => exact h
  | cons e es ih =>
    rw [List.reverse_cons, List.append_assoc]
    refine ih (h.cons ?_) ?_
    · rintro tag attrs rfl
      exact hapart [] tag attrs (es ++ after) rfl
    · intro front tag attrs back hsplit
      have hmem := hapart (e :: front) tag attrs back (by rw [List.cons_append, hsplit]; rfl)
      rwa [List.reverse_cons, List.append_assoc] at hmem

/-- **No end tag is stranded where no element stands inside of one of the same name.** -/
theorem stranded_eq_false {events : List Event} (hnested : wellNested (· == ·) [] events = true)
    (hapart : ∀ before tag attrs after, events = before ++ .start tag attrs :: after →
      tag.lower ∉ openElements before.reverse)
    {before after : List Event} {tag : Text} (hsplit : events = before ++ .finish tag :: after) :
    stranded o before.reverse tag = false := by
  have h : Apart o (before.reverse ++ []) := by
    refine Apart.append ⟨by simp [openElements], .inr (by simp [openElements])⟩
      (.finish tag :: after) ?_
    intro front tag' attrs back hfront
    rw [List.append_nil]
    exact hapart front tag' attrs back (hsplit.trans hfront)
  have hinner : wellNested (· == ·) (openElements (before.reverse ++ [])) (.finish tag :: after)
      = true := wellNested_suffix (hsplit ▸ hnested)
  rw [List.append_nil] at h hinner
  obtain ⟨top, hopen, hname⟩ := openElements_of_finish hinner
  obtain rfl : tag = top := by simpa using hname
  by_contra hstranded
  simp only [stranded, endsEmpty, Bool.not_eq_false, Bool.and_eq_true, beq_iff_eq,
    Bool.not_eq_true'] at hstranded
  obtain ⟨⟨⟨-, hlast⟩, -⟩, hopens⟩ := hstranded
  rcases h.gone with hwaits | hnone
  · rw [hopens] at hwaits
    cases hwaits
  · rw [← hlast, hopen] at hnone
    exact hnone List.mem_cons_self

end Transcript

/-! ## When a page comes through -/

namespace Session

/-- **When a page comes through with its empty elements removed.**  Where nothing is compacted and
no attribute asks for others, a page is answered with a text exactly if no end tag is stranded: none
takes for empty the element started last when all start tags were sent on already.  Any other page
fails because no chunk opens a tag.  Among the properly nested pages, all come through in which no
element stands inside of one of the same name. -/
theorem minify_ok_iff_not_stranded (s : Session) (name : Text) (m : Minifier) (c : Char) (cs : Text)
    (events : List Event) (hremove : m.settings.options.removeEmptyElements = true)
    (hjs : m.settings.options.minifyJS = false) (hcss : m.settings.options.minifyCSS = false)
    (hattrs : ∀ e ∈ events, e.asksSiblings = false) :
    let o := m.settings.options
    let answer := (s.minify name m (some (c :: cs, .ok events))).2.answer
    ((∃ t, answer = .ok (.text t)) ↔
        ∀ before tag after, events = before ++ .finish tag :: after →
          stranded o before.reverse tag = false) ∧
      ((∃ t, answer = .ok (.text t)) ∨ answer = .error .noOpening) ∧
      (wellNested (· == ·) [] events = true →
        (∀ before tag attrs after, events = before ++ .start tag attrs :: after →
          tag.lower ∉ openElements before.reverse) →
        ∃ t, answer = .ok (.text t)) := by
  intro o answer
  have hevents : ∀ e ∈ events, e.fault? o = none := by
    intro e he
    rw [Event.fault?_eq, hattrs e he, Bool.and_false]
    rfl
  rcases (tracks_opening o).feed_fault hremove hjs hcss hevents with
    ⟨hfault, hnone⟩ | ⟨hfault, before, e, after, hsplit, hstrands⟩
  · have htext : ∃ t, answer = .ok (.text t) := exists_answer_of_no_fault hfault name c cs
    refine ⟨iff_of_true htext fun before tag after hsplit => ?_, .inl htext, fun _ _ => htext⟩
    have h := hnone before (.finish tag) after hsplit
    rwa [List.append_nil] at h
  · have herror : answer = .error .noOpening := answer_of_fault hfault name c cs
    rw [List.append_nil] at hstrands
    -- only an end tag can be stranded
    obtain ⟨tag, rfl⟩ : ∃ tag, e = .finish tag := by
      cases e with
      | finish tag => exact ⟨tag, rfl⟩
      | start tag attrs => cases hstrands
      | data t => cases hstrands
      | comment t => cases hstrands
    refine ⟨iff_of_false (by simp [herror]) fun hall => ?_, .inr herror, fun hnested hapart => ?_⟩
    · exact Bool.false_ne_true ((hall before tag after hsplit).symm.trans hstrands)
    · have hnot := stranded_eq_false (o := o) hnested hapart hsplit
      exact absurd (hnot.symm.trans hstrands) Bool.false_ne_true

/-- A list inside of an item of a list: the end tag of the inner item finds a start tag that waits,
and that of the outer item finds a text. -/
theorem minify_ok_iff_not_stranded_list :
    let settings := Settings.default.update
      [("removeEmptyElements", .flag true), ("minifyJS", .flag false), ("minifyCSS", .flag false)]
    let events : List Event :=
      [.start "UL" [], .start "li" [], .start "ul" [], .start "li" [], .finish "li", .finish "ul",
        .data (some "a"), .finish "li", .finish "ul"]
    (∀ e ∈ events, e.asksSiblings = false) ∧
      ∀ before tag after, events = before ++ .finish tag :: after →
        stranded settings.options before.reverse tag = false := by
  intro settings events
  have hoptions : settings.options =
      { removeEmptyElements := true, minifyJS := false, minifyCSS := false } := by
    decide +kernel
  have hattrs : ∀ e ∈ events, e.asksSiblings = false := by decide +kernel
  have hok : ((Page.opening settings.options).feed {} settings.options { replies := [] }
      events).fault = none := by
    rw [hoptions]
    decide +kernel
  have h := minify_ok_iff_not_stranded {} "m" { settings := settings } 'x' [] events
    (by rw [hoptions]) (by rw [hoptions]) (by rw [hoptions]) hattrs
  exact ⟨hattrs, h.1.1 (exists_answer_of_no_fault (s := {}) (m := { settings := settings }) hok "m"
    'x' [])⟩

/-- An element with nothing in it but an element of the same name with a text: the inner end tag
sends both start tags on, and the outer one finds none to remove. -/
theorem minify_stranded_inner :
    let settings := Settings.default.update
      [("removeEmptyElements", .flag true), ("minifyJS", .flag false), ("minifyCSS", .flag false)]
    let events : List Event :=
      [.start "div" [], .start "div" [], .data (some "a"), .finish "div", .finish "div"]
    wellNested (· == ·) [] events = true ∧ (∀ e ∈ events, e.asksSiblings = false) ∧
      (({} : Session).minify "m" { settings := settings } (some (['x'], .ok events))).2.answer
        = .error .noOpening := by
  intro settings events
  have hoptions : settings.options =
      { removeEmptyElements := true, minifyJS := false, minifyCSS := false } := by
    decide +kernel
  have hfault : ((Page.opening settings.options).feed {} settings.options { replies := [] }
      events).fault = some .noOpening := by
    rw [hoptions]
    decide +kernel
  exact ⟨by decide +kernel, by decide +kernel,
    answer_of_fault (s := {}) (m := { settings := settings }) hfault "m" 'x' []⟩

end Session

end PagePress

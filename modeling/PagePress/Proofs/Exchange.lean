import PagePress.Proofs.Faults
import PagePress.Proofs.Forms
import PagePress.Proofs.Handover
import PagePress.Proofs.Ledger

/-!
# The exchange with the compile service

Without a script compactor a page talks to the compile service: an end tag may send a script, and
what comes back decides what is written, and even what a later end tag sends.  This file tells the
whole exchange from the events and the list of replies alone.

* `Transcript.script? o past t` is the script that an end tag sends, if any, where the text `t`
  waits.
* `Transcript.exchange o replies past` is what the exchange has come to after the events `past`,
  given newest first: the scripts sent, and the text that waits for the next end tag.
  The script sent as number `n` gets the reply of number `n`.
* `Transcript.outcome` goes through events up to the first that fails, be it for its attributes or
  because there is no reply left.
* `Converses` says that a run and the service stand where the exchange says.  One event keeps that
  (`step_converses`), and `feed_exchange` follows a whole run.
* `minify_exchange` concludes what a page asks, what it writes and how it is answered.
-/

set_option autoImplicit false

namespace PagePress

open Transcript

/-! ## Scripts and replies -/

/-- The service after it was sent scripts, each of which took the next reply if there was one. -/
def Service.after (s : Service) (codes : List Text) : Service where
  replies := s.replies.drop codes.length
  requests := s.requests ++ codes.map Tools.request

theorem Service.after_concat (s : Service) (codes : List Text) (code : Text) :
    s.after (codes ++ [code]) =
      { replies := (s.after codes).replies.tail
        requests := (s.after codes).requests ++ [Tools.request code] } := by
  rw [after, after, List.tail_drop, List.length_append, List.map_append, ← List.append_assoc]
  rfl

/-- A reply that holds no script: an error message, or blanks only. -/
def IsRefused (reply : Text) : Prop := ("Error(" : Text) <+: reply ∨ Text.allBlank reply = true

theorem Tools.isRefusal_iff {reply : Text} : isRefusal reply = true ↔ IsRefused reply := by
  rw [isRefusal, Bool.or_eq_true, Option.isSome_iff_exists]
  refine or_congr ⟨?_, ?_⟩ Iff.rfl
  · rintro ⟨rest, h⟩
    exact ⟨rest, (Text.after?_eq_some_iff.1 h).symm⟩
  · rintro ⟨rest, h⟩
    exact ⟨rest, Text.after?_eq_some_iff.2 h.symm⟩

instance (reply : Text) : Decidable (IsRefused reply) :=
  decidable_of_iff (Tools.isRefusal reply = true) Tools.isRefusal_iff

namespace Tools

/-- What is written for a script, given the reply to it: the reply, unless it is refused. -/
def received (code reply : Text) : Text := if IsRefused reply then code else reply

theorem received_eq (code reply : Text) :
    received code reply = if isRefusal reply then code else reply :=
  if_congr isRefusal_iff.symm rfl rfl

/-- Having a script compiled takes the next reply.  The request is on record also where there is
none. -/
theorem compile_code (s : Service) (code : Text) :
    compile s ("js_code", code) (some code) =
      (match s.replies.head? with
        | some reply => .ok (received code reply)
        | none => .error .noReply,
        { replies := s.replies.tail, requests := s.requests ++ [request code] }) := by
  rw [compile, Service.send]
  cases s.replies with
  | nil => rfl
  | cons reply rest =>
    dsimp only [List.head?_cons, List.tail_cons]
    rw [received_eq]
    cases isRefusal reply <;> rfl

end Tools

/-! ## The exchange -/

/-- What an exchange with the compile service has come to. -/
structure Exchange where
  /-- The text that waits for an end tag. -/
  waiting : Text := []
  /-- The scripts sent. -/
  sent : List Text := []

namespace Transcript

/-- The script that an end tag sends where a text waits: the text without its wrappers, if the tag
started last is that of a script without a source and the text is not blank. -/
def script? (o : Options) (past : List Event) (waiting : Text) : Option Text :=
  let code := Wrapper.unwrap o .script waiting
  if lastTag past = "script" ∧ ¬ (lastAttrs past).any (·.has "src") ∧ ¬ Text.allBlank code then
    some code
  else none

/-- The text that an end tag writes, if it comes to write one: what is received for the script that
it sends, and else the text that waits, without its wrappers. -/
def settled? (o : Options) (replies : List Text) (past : List Event) (x : Exchange) :
    Option Text :=
  match script? o past x.waiting with
  | some code => replies[x.sent.length]?.map (Tools.received code)
  | none => some (Wrapper.unwrapIn o (lastTag past) x.waiting)

/-- The exchange after events. -/
def exchange (o : Options) (replies : List Text) : List Event → Exchange
  | [] => {}
  | .start _ _ :: past => { exchange o replies past with waiting := [] }
  | .finish tag :: past =>
    let x := exchange o replies past
    { waiting := if writesEnd o tag then [] else (settled? o replies past x).getD []
      sent := x.sent ++ (script? o past x.waiting).toList }
  | .data none :: past => exchange o replies past
  | .data (some t) :: past =>
    let x := exchange o replies past
    { x with waiting := x.waiting ++ normal o past t }
  | .comment _ :: past => exchange o replies past

/-- The fault of an event after others. -/
def faultAfter? (o : Options) (replies : List Text) (past : List Event) : Event → Option Fault
  | .finish _ =>
    if settled? o replies past (exchange o replies past) = none then some .noReply else none
  | e => e.fault? o

/-- The chunks of an event after others, if it has no fault. -/
def chunksAfter (o : Options) (replies : List Text) (past : List Event) : Event → List Text
  | .finish tag =>
    (settled? o replies past (exchange o replies past)).toList ++
      if writesEnd o tag then Run.endTag tag else []
  | e => chunks o past e

/-- The chunks of a page up to here. -/
def pageAfter (o : Options) (replies : List Text) : List Event → List Text
  | [] => [Page.doctype o Page.longDoctype]
  | e :: past => pageAfter o replies past ++ chunksAfter o replies past e

/-- The chunks of an event that has a fault: those of a start tag up to its first attribute without
a text. -/
def chunksBeforeFault (o : Options) : Event → List Text
  | .start tag attrs => ['<'] :: tag.lower :: (Run.fragments o tag.lower attrs).1
  | _ => []

/-- How far events come. -/
structure Outcome where
  /-- The events without a fault, newest first. -/
  past : List Event
  /-- The event that comes to a fault, and the fault. -/
  stop : Option (Event × Fault)

/-- The events that are reached, newest first. -/
def Outcome.reached (x : Outcome) : List Event := x.stop.toList.map (·.1) ++ x.past

/-- How far events come after others. -/
def outcome (o : Options) (replies : List Text) : List Event → List Event → Outcome
  | past, [] => ⟨past, none⟩
  | past, e :: es =>
    match faultAfter? o replies past e with
    | some fault => ⟨past, some (e, fault)⟩
    | none => outcome o replies (e :: past) es

/-- The events reached are the first ones, and all where none has a fault. -/
theorem outcome_reached (o : Options) (replies : List Text) (past events : List Event) :
    (outcome o replies past events).reached.reverse <+: past.reverse ++ events ∧
      ((outcome o replies past events).stop = none →
        (outcome o replies past events).reached.reverse = past.reverse ++ events) := by
  induction events generalizing past with
  | nil => simp [outcome, Outcome.reached]
  | cons e es ih =>
    rw [outcome]
    cases faultAfter? o replies past e with
    | some fault => exact ⟨⟨es, by simp [Outcome.reached]⟩, by simp⟩
    | none => simpa using ih (e :: past)

/-! ## One event -/

/-- Scripts go to the compile service, styles are not compacted, and no element is removed. -/
structure Remote (tools : Tools) (o : Options) : Prop where
  tool : tools.script = false
  js : o.minifyJS = true
  css : o.minifyCSS = false
  empty : o.removeEmptyElements = false

/-- The run `r` and the service `s` stand where the exchange says that began with `s₀`. -/
structure Converses (o : Options) (s₀ : Service) (past : List Event) (r : Run) (s : Service) :
    Prop extends Recalls o past r where
  pending : r.pending = (exchange o s₀.replies past).waiting
  service : s = s₀.after (exchange o s₀.replies past).sent

variable {tools : Tools} {o : Options} {past : List Event} {r : Run} {s s₀ : Service}

theorem converses_opening (o : Options) (s : Service) : Converses o s [] (Page.opening o) s :=
  ⟨recalls_opening o, rfl, by simp [exchange, Service.after]⟩

theorem Recalls.handed?_eq (h : Recalls o past r) (hjs : o.minifyJS = true) :
    r.handed? o .script = script? o past r.pending := by
  rw [Run.handed?, script?, RawKind.isCompacted, hjs, h.tag, h.attrs]
  refine if_congr ?_ rfl rfl
  rw [Bool.true_and, Bool.and_eq_true, Bool.and_eq_true, beq_iff_eq, Bool.not_eq_true',
    Bool.not_eq_true', and_assoc, Bool.not_eq_true, Bool.not_eq_true]
  rfl

end Transcript

/-- Where styles are not compacted, an end tag that sends no script writes the text without its
wrappers. -/
theorem Run.closingText_of_handed?_eq_none {tools : Tools} {o : Options} {r : Run} {s : Service}
    (hcss : o.minifyCSS = false) (hnone : r.handed? o .script = none) :
    r.closingText tools o s = (.ok (Wrapper.unwrapIn o r.tag r.pending), s) := by
  cases hkind : RawKind.ofTag? r.tag with
  | none => rw [closingText, Wrapper.unwrapIn, hkind]
  | some kind =>
    have hhanded : r.handed? o kind = none := by
      cases kind with
      | script => exact hnone
      | style => simp [handed?, RawKind.isCompacted, hcss]
    rw [closingText_eq (RawKind.ofTag?_eq_some_iff.1 hkind), hhanded, Wrapper.unwrapIn, hkind]

namespace Transcript

variable {tools : Tools} {o : Options} {past : List Event} {r : Run} {s s₀ : Service}

/-- **The text of an element that ends**, by the exchange. -/
theorem Converses.closingText_eq (h : Converses o s₀ past r s) (ho : Remote tools o) (tag : Text) :
    r.closingText tools o s =
      (match settled? o s₀.replies past (exchange o s₀.replies past) with
        | some t => .ok t
        | none => .error .noReply,
        s₀.after (exchange o s₀.replies (.finish tag :: past)).sent) := by
  have hhanded := h.handed?_eq ho.js
  rw [h.pending] at hhanded
  rw [settled?, exchange]
  cases hscript : script? o past (exchange o s₀.replies past).waiting with
  | none =>
    rw [hscript] at hhanded
    rw [Run.closingText_of_handed?_eq_none ho.css hhanded, h.tag, h.pending, h.service]
    simp
  | some code =>
    rw [hscript] at hhanded
    have htag : r.tag = RawKind.script.tag := by
      by_contra hne
      rw [Run.handed?_eq_none hne] at hhanded
      cases hhanded
    rw [Run.closingText_eq htag, hhanded, h.service]
    show (if tools.script then _ else Tools.compile _ ("js_code", code) (some code)) = _
    rw [if_neg (by simp [ho.tool]), Tools.compile_code, Option.toList_some, Service.after_concat,
      Service.after, List.head?_drop]
    cases s₀.replies[(exchange o s₀.replies past).sent.length]? <;> rfl

/-- An end tag that lacks a reply leaves the run as it is. -/
theorem Converses.finish_of_none (h : Converses o s₀ past r s) (ho : Remote tools o) (tag : Text)
    (hnone : settled? o s₀.replies past (exchange o s₀.replies past) = none) :
    r.finish tools o s tag =
      { run := r
        service := s₀.after (exchange o s₀.replies (.finish tag :: past)).sent
        fault := some .noReply } := by
  rw [Run.finish, h.closingText_eq ho tag, hnone]

theorem Converses.finish_of_some (h : Converses o s₀ past r s) (ho : Remote tools o)
    (tag : Text) {t : Text}
    (ht : settled? o s₀.replies past (exchange o s₀.replies past) = some t) :
    r.finish tools o s tag =
      if writesEnd o tag then
        { run := { r.settle o tag t with chunks := [], pending := [] }
          service := s₀.after (exchange o s₀.replies (.finish tag :: past)).sent
          emitted := r.chunks ++ t :: Run.endTag tag
          shelved := some (r.chunks ++ t :: Run.endTag tag) }
      else
        { run := r.settle o tag t
          service := s₀.after (exchange o s₀.replies (.finish tag :: past)).sent } :=
  finish_of_text ho.empty (by rw [h.closingText_eq ho tag, ht])

theorem Converses.step_fault (h : Converses o s₀ past r s) (ho : Remote tools o) (e : Event) :
    (r.step tools o s e).fault = faultAfter? o s₀.replies past e := by
  cases e with
  | start tag attrs => exact start_fault tag attrs
  | finish tag =>
    rw [Run.step, faultAfter?]
    cases ht : settled? o s₀.replies past (exchange o s₀.replies past) with
    | none => rw [h.finish_of_none ho tag ht, if_pos rfl]
    | some t =>
      rw [h.finish_of_some ho tag ht]
      cases writesEnd o tag <;> simp
  | data t => rfl
  | comment t => rfl

/-- The service after an event, be there a fault or not. -/
theorem Converses.step_service (h : Converses o s₀ past r s) (ho : Remote tools o) (e : Event) :
    (r.step tools o s e).service = s₀.after (exchange o s₀.replies (e :: past)).sent := by
  cases e with
  | start tag attrs => exact h.service
  | finish tag => rw [Run.step, Run.finish_service, h.closingText_eq ho tag]
  | data t => cases t <;> exact h.service
  | comment t => exact h.service

/-- An event with a fault keeps all chunks, and adds what is written of it before the fault. -/
theorem Converses.step_output_of_fault (h : Converses o s₀ past r s) (ho : Remote tools o)
    {e : Event} {fault : Fault} (hfault : faultAfter? o s₀.replies past e = some fault) :
    (r.step tools o s e).emitted = [] ∧
      (r.step tools o s e).run.chunks = r.chunks ++ chunksBeforeFault o e := by
  cases e with
  | start tag attrs =>
    refine ⟨rfl, ?_⟩
    have hfragments : (Run.fragments o tag.lower attrs).2 = some fault := hfault
    rw [Run.step, Run.start, chunksBeforeFault]
    generalize Run.fragments o tag.lower attrs = found at hfragments ⊢
    obtain ⟨texts, _⟩ := found
    obtain rfl := hfragments
    rfl
  | finish tag =>
    cases ht : settled? o s₀.replies past (exchange o s₀.replies past) with
    | none =>
      rw [Run.step, h.finish_of_none ho tag ht]
      simp [chunksBeforeFault]
    | some t => simp [faultAfter?, ht] at hfault
  | data t => cases hfault
  | comment t => cases hfault

/-- **An event without a fault goes on with the exchange** and makes the chunks that it says, which
are sent on or wait in the run. -/
theorem step_converses (h : Converses o s₀ past r s) (ho : Remote tools o) {e : Event}
    (hok : faultAfter? o s₀.replies past e = none) :
    Converses o s₀ (e :: past) (r.step tools o s e).run (r.step tools o s e).service ∧
      (r.step tools o s e).emitted ++ (r.step tools o s e).run.chunks
        = r.chunks ++ chunksAfter o s₀.replies past e := by
  have hrecalls := step_recalls h.toRecalls ((h.step_fault ho e).trans hok)
  have hservice := h.step_service ho e
  cases e with
  | start tag attrs =>
    refine ⟨⟨hrecalls, ?_, hservice⟩, ?_⟩
    · rw [Run.step, start_eq past hok]
      rfl
    · rw [Run.step, start_eq past hok]
      simp [Run.write, Run.enter, chunksAfter]
  | finish tag =>
    cases ht : settled? o s₀.replies past (exchange o s₀.replies past) with
    | none => simp [faultAfter?, ht] at hok
    | some t =>
      have hfinish := h.finish_of_some ho tag ht
      refine ⟨⟨hrecalls, ?_, hservice⟩, ?_⟩
      · rw [Run.step, hfinish, exchange, ht]
        by_cases hw : writesEnd o tag = true
        · simp [hw]
        · simp [hw, Run.settle]
      · rw [Run.step, hfinish, chunksAfter, ht]
        by_cases hw : writesEnd o tag = true
        · simp [hw]
        · simp [hw, Run.settle]
  | data t =>
    refine ⟨⟨hrecalls, ?_, hservice⟩, by cases t <;> simp [Run.step, Run.data, chunksAfter, chunks]⟩
    cases t with
    | none => exact h.pending
    | some t =>
      show r.pending ++ r.normalize o t = _
      rw [h.pending, h.normalize_eq, exchange]
  | comment t =>
    exact ⟨⟨hrecalls, h.pending, hservice⟩, by
      simp [Run.step, Run.comment, Run.write, chunksAfter, chunks]⟩

/-! ## Many events -/

/-- **A run goes as far as the exchange does.**  The chunks `made` were sent on before. -/
theorem feed_exchange (h : Converses o s₀ past r s) (ho : Remote tools o) {made : List Text}
    (hmade : made ++ r.chunks = pageAfter o s₀.replies past) (events : List Event) :
    let x := outcome o s₀.replies past events
    (r.feed tools o s events).fault = x.stop.map (·.2) ∧
      (r.feed tools o s events).service = s₀.after (exchange o s₀.replies x.reached).sent ∧
      made ++ (r.feed tools o s events).emitted ++ (r.feed tools o s events).run.chunks
        = pageAfter o s₀.replies x.past ++
            x.stop.toList.flatMap fun stop => chunksBeforeFault o stop.1 := by
  induction events generalizing past r s made with
  | nil => exact ⟨rfl, h.service, by simpa [Run.feed, outcome] using hmade⟩
  | cons e es ih =>
    have hfault := h.step_fault ho e
    rw [outcome]
    cases hafter : faultAfter? o s₀.replies past e with
    | some fault =>
      rw [hafter] at hfault
      obtain ⟨hemitted, hchunks⟩ := h.step_output_of_fault ho hafter
      rw [feed_cons_of_fault hfault]
      refine ⟨hfault, h.step_service ho e, ?_⟩
      dsimp only
      rw [hemitted, hchunks, List.append_nil, ← List.append_assoc, hmade]
      simp
    | none =>
      rw [hafter] at hfault
      obtain ⟨hnext, houtput⟩ := step_converses h ho hafter
      have hmade' : made ++ (r.step tools o s e).emitted ++ (r.step tools o s e).run.chunks
          = pageAfter o s₀.replies (e :: past) := by
        rw [List.append_assoc, houtput, ← List.append_assoc, hmade, pageAfter]
      rw [feed_cons_of_no_fault hfault]
      dsimp only
      rw [← List.append_assoc]
      exact ih hnext hmade'

end Transcript

/-! ## A whole page -/

theorem Page.flush_service (step : Step) : (flush step).service = step.service := by
  rw [flush]
  split <;> rfl

/-- What is sent on and what waits, together, are not changed at the end of a page. -/
theorem Page.flush_output (step : Step) :
    (flush step).emitted ++ (flush step).run.chunks = step.emitted ++ step.run.chunks := by
  rw [flush]
  split
  · rfl
  · exact List.append_nil _

/-- **A page goes as far as the exchange does.**  At the end no chunk waits. -/
theorem Page.minifyEvents_exchange {tools : Tools} {o : Options} (ho : Remote tools o)
    (s : Service) (events : List Event) :
    let x := outcome o s.replies [] events
    let step := Page.minifyEvents tools o s events
    step.fault = x.stop.map (·.2) ∧
      step.service = s.after (exchange o s.replies x.reached).sent ∧
      step.emitted ++ step.run.chunks = pageAfter o s.replies x.past ++
        x.stop.toList.flatMap (fun stop => chunksBeforeFault o stop.1) ∧
      (x.stop = none → step.emitted = pageAfter o s.replies x.past) := by
  intro x step
  obtain ⟨hfault, hservice, houtput⟩ :=
    feed_exchange (converses_opening o s) ho (List.nil_append _) events
  rw [List.nil_append] at houtput
  refine ⟨(flush_fault _).trans hfault, (flush_service _).trans hservice,
    (flush_output _).trans houtput, fun hstop => ?_⟩
  have hnone : (outcome o s.replies [] events).stop = none := hstop
  rw [hnone] at hfault houtput
  exact (flush_emitted hfault).trans (houtput.trans (List.append_nil _))

namespace Session

/-- **The exchange of a page.**  Whatever the events and the replies are, the requests made are
those of the exchange, one for each script sent, and each is read as the script that it is for; the
chunks written are those of the exchange, which have what is received for a script in its place; and
a page that comes to an end tag that lacks a reply fails there, after the request. -/
theorem minify_exchange (s : Session) (name : Text) (m : Minifier) (c : Char) (cs : Text)
    (events : List Event) (htool : s.tools.script = false)
    (hjs : m.settings.options.minifyJS = true) (hcss : m.settings.options.minifyCSS = false)
    (hempty : m.settings.options.removeEmptyElements = false) :
    let o := m.settings.options
    let replies := s.service.replies
    let x := outcome o replies [] events
    let sent := (exchange o replies x.reached).sent
    let after := (s.minify name m (some (c :: cs, .ok events))).1
    (x.reached.reverse <+: events ∧ (x.stop = none → x.reached.reverse = events)) ∧
      after.service.requests = s.service.requests ++ sent.map (fun code =>
        { host := "closure-compiler.appspot.com"
          method := "POST"
          path := "/compile"
          body := Form.encode [("output_format", "text"), ("output_info", "compiled_code"),
            ("compilation_level", "SIMPLE_OPTIMIZATIONS"), ("js_code", code)]
          headers := Tools.headers }) ∧
      (after.service.requests.drop s.service.requests.length).map (·.value? "js_code")
        = sent.map some ∧
      after.service.replies = replies.drop sent.length ∧
      after.results ++ (after.get name).run.chunks = s.results ++ (pageAfter o replies x.past ++
        x.stop.toList.flatMap (fun stop => chunksBeforeFault o stop.1)) ∧
      (s.minify name m (some (c :: cs, .ok events))).2.answer =
        match x.stop with
        | some (_, fault) => .error fault
        | none => .ok (.text (Chunk.page (s.results ++ pageAfter o replies x.past))) := by
  intro o replies x sent after
  have ho : Remote s.tools o := ⟨htool, hjs, hcss, hempty⟩
  obtain ⟨hfault, hservice, houtput, hemitted⟩ := Page.minifyEvents_exchange ho s.service events
  have hrun : (after.get name).run = (Page.minifyEvents s.tools o s.service events).run :=
    congrArg Minifier.run (get_put_self _ name _)
  have hrequests : after.service.requests = s.service.requests ++ sent.map Tools.request :=
    congrArg Service.requests hservice
  refine ⟨outcome_reached o replies [] events, hrequests, ?_, ?_, ?_, ?_⟩
  · rw [hrequests, List.drop_left, List.map_map]
    exact List.map_congr_left fun code _ => Service.value?_compileRequest Tools.headers code
  · exact congrArg Service.replies hservice
  · rw [hrun, ← houtput, ← List.append_assoc]
    rfl
  · rw [minify_answer, hfault]
    cases hstop : x.stop with
    | some stop => rfl
    | none =>
      rw [hemitted hstop]
      rfl

/-- The exchange of a page that sends three scripts: one in a comment, which gets a reply, one that
stands behind a script and is refused, and one for which there is no reply.  A script that stands
elsewhere and one that is empty are not sent. -/
theorem minify_exchange_refused :
    let s : Session :=
      { tools := { script := false }, service := { replies := [("one" : Text), "Error(1)"] } }
    let m : Minifier := { settings := Settings.default.put "minifyCSS" (.flag false) }
    let events : List Event :=
      [.start "script" [], .data (some "<!-- a -->"), .finish "script",
        .start "script" [⟨"src", some "u"⟩], .data (some "b"), .finish "script",
        .start "script" [], .finish "script", .data (some "c"), .finish "p",
        .start "script" [], .data (some "d"), .finish "script", .start "p" []]
    let after := (s.minify [] m (some (['x'], .ok events))).1
    m.settings.options = { minifyCSS := false } ∧
      after.service.requests = [
          ("output_format=text&output_info=compiled_code" ++
            "&compilation_level=SIMPLE_OPTIMIZATIONS&js_code=+a" : Text),
          "output_format=text&output_info=compiled_code" ++
            "&compilation_level=SIMPLE_OPTIMIZATIONS&js_code=c",
          "output_format=text&output_info=compiled_code" ++
            "&compilation_level=SIMPLE_OPTIMIZATIONS&js_code=d"].map (fun body =>
        { host := "closure-compiler.appspot.com"
          method := "POST"
          path := "/compile"
          body := body
          headers := Tools.headers }) ∧
      after.service.requests.map (·.value? "js_code")
        = [some (" a" : Text), some ("c" : Text), some ("d" : Text)] ∧
      after.service.replies = [] ∧
      after.results ++ (after.get []).run.chunks
        = ([("<!DOCTYPE html>" : Text), "<", "script", ">", "one", "</", "script", ">",
            "<", "script", " src=u", ">", "b", "</", "script", ">",
            "<", "script", ">", "", "</", "script", ">", "c", "</", "p", ">",
            "<", "script", ">"] : List Text) ∧
      (s.minify [] m (some (['x'], .ok events))).2.answer = .error .noReply := by
  intro s m events after
  have hoptions : m.settings.options = { minifyCSS := false } := by decide +kernel
  obtain ⟨-, hrequests, hcodes, hreplies, hchunks, hanswer⟩ :=
    minify_exchange s [] m 'x' [] events rfl (by rw [hoptions]) (by rw [hoptions])
      (by rw [hoptions])
  rw [hoptions] at hrequests hcodes hreplies hchunks hanswer
  have hstop : (outcome { minifyCSS := false } s.service.replies [] events).stop
      = some (.finish "script", .noReply) := by decide +kernel
  rw [hstop] at hanswer
  refine ⟨hoptions, hrequests.trans ?_, hcodes.trans ?_, hreplies.trans ?_, hchunks.trans ?_,
    hanswer⟩
  · decide +kernel
  · decide +kernel
  · decide +kernel
  · decide +kernel

end Session

end PagePress

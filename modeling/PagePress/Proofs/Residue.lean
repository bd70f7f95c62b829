import PagePress.Proofs.Faults
import PagePress.Proofs.Ledger

/-!
# What a failed page leaves behind

A page that fails is answered with its fault.  But an end tag that is written sends all chunks on to
the results of the session at once, and nothing takes them back: if the page fails later, then they
stay there, and come out with the next page.

* `Run.writesTag` says of an end tag that it is written, and `finish_emitted` what it sends on.
* `feed_emitted_eq_nil_iff` says when a whole run sends nothing on.  If it does send something on,
  then some of it is seen in every page that is made of it (`page_emitted_eq_nil_iff`).
* `results_of_failure_iff` puts this together for a page that fails, and for the page after it.
-/

set_option autoImplicit false

namespace PagePress

open Transcript

variable {tools : Tools} {o : Options} {r : Run} {s : Service}

namespace Run

/-- Whether an end tag is written behind a text: the end tag is not implied, and the element is none
that is removed because the text is empty. -/
def writesAfter (o : Options) (r : Run) (tag text : Text) : Bool :=
  writesEnd o tag && !(o.removeEmptyElements && text.isEmpty && tag == r.tag && isRemovable tag)

/-- Whether an end tag is written: the text of its element can be made, and it is written behind
that text. -/
def writesTag (tools : Tools) (o : Options) (r : Run) (s : Service) (tag : Text) : Bool :=
  match (r.closingText tools o s).1 with
  | .error _ => false
  | .ok text => r.writesAfter o tag text

/-! ## What is sent on -/

theorem settle_close_emitted (o : Options) (r : Run) (s : Service) (tag text : Text) :
    ((r.settle o tag text).close o s tag).emitted =
      if r.writesAfter o tag text then r.chunks ++ text :: endTag tag else [] := by
  have hpending : (r.settle o tag text).pending = text := rfl
  have htag : (r.settle o tag text).tag = r.tag := rfl
  rw [close, closing, hpending, htag, writesAfter, writesEnd]
  cases o.removeEmptyElements && text.isEmpty && tag == r.tag && isRemovable tag with
  | true => cases fromLastOpening? (r.settle o tag text).chunks <;> simp
  | false => cases o.removeOptionalTags && hasOptionalEnd tag <;> simp [settle]

/-- An end tag that is written sends all chunks on, the text of its element and itself last; any
other sends nothing on. -/
theorem finish_emitted (tools : Tools) (o : Options) (r : Run) (s : Service) (tag : Text) :
    (r.writesTag tools o s tag = false ∧ (r.finish tools o s tag).emitted = []) ∨
      (r.writesTag tools o s tag = true ∧
        ∃ text, (r.finish tools o s tag).emitted = r.chunks ++ text :: endTag tag) := by
  rw [finish, writesTag]
  rcases r.closingText tools o s with ⟨fault | text, s'⟩
  · exact .inl ⟨rfl, rfl⟩
  · have hemitted := settle_close_emitted o r s' tag text
    dsimp only
    cases hwrites : r.writesAfter o tag text with
    | false => exact .inl ⟨rfl, by rw [hemitted, hwrites]; rfl⟩
    | true => exact .inr ⟨rfl, text, by rw [hemitted, hwrites]; rfl⟩

/-- Whether an event is an end tag that is written. -/
def sendsOn (tools : Tools) (o : Options) (r : Run) (s : Service) : Event → Bool
  | .finish tag => r.writesTag tools o s tag
  | _ => false

/-- An event sends something on exactly if it is an end tag that is written, and then the mark of
the end tag is among it. -/
theorem step_emitted (tools : Tools) (o : Options) (r : Run) (s : Service) (e : Event) :
    (r.sendsOn tools o s e = false ∧ (r.step tools o s e).emitted = []) ∨
      (r.sendsOn tools o s e = true ∧ ['<', '/'] ∈ (r.step tools o s e).emitted) := by
  cases e with
  | start tag attrs => exact .inl ⟨rfl, rfl⟩
  | finish tag =>
    rcases finish_emitted tools o r s tag with h | ⟨h, text, hsent⟩
    · exact .inl h
    · refine .inr ⟨h, ?_⟩
      show _ ∈ (r.finish tools o s tag).emitted
      rw [hsent]
      simp [endTag]
  | data t => exact .inl ⟨rfl, rfl⟩
  | comment t => exact .inl ⟨rfl, rfl⟩

theorem step_emitted_eq_nil_iff (e : Event) :
    (r.step tools o s e).emitted = [] ↔ r.sendsOn tools o s e = false := by
  rcases step_emitted tools o r s e with ⟨h, hsent⟩ | ⟨h, hsent⟩
  · exact iff_of_true hsent h
  · exact iff_of_false (List.ne_nil_of_mem hsent) (by simp [h])

/-- **When a run sends nothing on**: no end tag that it comes to is written. -/
theorem feed_emitted_eq_nil_iff {events : List Event} :
    (r.feed tools o s events).emitted = [] ↔
      ∀ before e after, events = before ++ e :: after → (r.feed tools o s before).fault = none →
        (r.feed tools o s before).run.sendsOn tools o (r.feed tools o s before).service e
          = false := by
  induction events generalizing r s with
  | nil => simp [feed]
  | cons e es ih =>
    rw [forall_split_cons]
    cases hfault : (r.step tools o s e).fault with
    | some fault =>
      -- nothing is handled after the event
      rw [feed_cons_of_fault hfault]
      refine (step_emitted_eq_nil_iff e).trans ⟨fun h => ⟨fun _ => h, ?_⟩, fun h => h.1 rfl⟩
      intro before y after _ hok
      rw [(feed_cons_fault_eq_none hok).1] at hfault
      cases hfault
    | none =>
      rw [feed_cons_of_no_fault hfault, List.append_eq_nil_iff, step_emitted_eq_nil_iff, ih]
      refine and_congr ⟨fun h _ => h, fun h => h rfl⟩ ?_
      refine forall_congr' fun before => ?_
      rw [feed_cons_of_no_fault hfault]

/-- What a run sends on holds the mark of an end tag, unless it is nothing. -/
theorem feed_emitted_eq_nil_or_mem (tools : Tools) (o : Options) (r : Run) (s : Service)
    (events : List Event) :
    (r.feed tools o s events).emitted = [] ∨ ['<', '/'] ∈ (r.feed tools o s events).emitted := by
  induction events generalizing r s with
  | nil => exact .inl rfl
  | cons e es ih =>
    have hfirst := step_emitted tools o r s e
    cases hfault : (r.step tools o s e).fault with
    | some fault =>
      rw [feed_cons_of_fault hfault]
      exact hfirst.imp And.right And.right
    | none =>
      rw [feed_cons_of_no_fault hfault, List.mem_append, List.append_eq_nil_iff]
      rcases hfirst with ⟨-, hnone⟩ | ⟨-, hmark⟩
      · exact (ih _ _).imp (fun h => ⟨hnone, h⟩) .inr
      · exact .inr (.inl hmark)

/-- What a run sends on is seen in the page, unless it is nothing. -/
theorem page_emitted_eq_nil_iff {events : List Event} :
    Chunk.page (r.feed tools o s events).emitted = [] ↔ (r.feed tools o s events).emitted = [] := by
  refine ⟨fun hpage => ?_, fun h => by rw [h]; rfl⟩
  rcases feed_emitted_eq_nil_or_mem tools o r s events with h | hmark
  · exact h
  · exact absurd (List.flatMap_eq_nil_iff.1 hpage _ hmark) (by decide)

end Run

/-! ## Pages that fail -/

namespace Session

/-- No end tag of the page is written, as far as the page is handled. -/
def Unwritten (s : Session) (m : Minifier) (page : Option (Text × Except Fault (List Event))) :
    Prop :=
  ∀ c cs events, page = some (c :: cs, .ok events) →
    ∀ before tag after, events = before ++ .finish tag :: after →
      let part := (Page.opening m.settings.options).feed s.tools m.settings.options s.service before
      part.fault = none → part.run.writesTag s.tools m.settings.options part.service tag = false

/-- What a page that fails adds to the results: what its run sent on before the fault. -/
theorem results_of_failure {s : Session} {m : Minifier}
    {page : Option (Text × Except Fault (List Event))} {fault : Fault} {name : Text}
    (hfail : (s.minify name m page).2.answer = .error fault) :
    ∃ residue, (s.minify name m page).1.results = s.results ++ residue ∧
      (Chunk.page residue = [] ↔ residue = []) ∧ (residue = [] ↔ s.Unwritten m page) := by
  by_cases hpage : ∃ c cs events, page = some (c :: cs, .ok events)
  · obtain ⟨c, cs, events, rfl⟩ := hpage
    rw [minify_answer] at hfail
    let o := m.settings.options
    let run := (Page.opening o).feed s.tools o s.service events
    have hflush : Page.minifyEvents s.tools o s.service events = run := by
      cases hfault : run.fault with
      | none =>
        rw [Page.minifyEvents, flush_fault, hfault] at hfail
        cases hfail
      | some fault => exact flush_of_fault hfault
    refine ⟨run.emitted, by rw [minify_results, hflush], Run.page_emitted_eq_nil_iff, ?_⟩
    rw [Run.feed_emitted_eq_nil_iff]
    constructor
    · rintro h c' cs' events' ⟨⟩ before tag after hsplit part hok
      exact h before (.finish tag) after hsplit hok
    · intro h before e after hsplit hok
      cases e with
      | finish tag => exact h c cs events rfl before tag after hsplit hok
      | start tag attrs => rfl
      | data t => rfl
      | comment t => rfl
  · have hnone : ∀ c cs events, page ≠ some (c :: cs, .ok events) :=
      fun c cs events h => hpage ⟨c, cs, events, h⟩
    refine ⟨[], by rw [minify_quiet page hnone, List.append_nil], iff_of_true rfl rfl,
      iff_of_true rfl ?_⟩
    intro c cs events h
    exact absurd h (hnone c cs events)

/-- A page has the same text of its own behind the results of any session with the same tools and
the same replies to come. -/
theorem exists_answer_append {s : Session} (s' : Session) (htools : s'.tools = s.tools)
    (hservice : s'.service = s.service) {name : Text} {m : Minifier}
    {page : Option (Text × Except Fault (List Event))} {t : Text}
    (h : (s.minify name m page).2.answer = .ok (.text t)) :
    ∃ own, t = Chunk.page s.results ++ own ∧
      (s'.minify name m page).2.answer = .ok (.text (Chunk.page s'.results ++ own)) := by
  rcases page with _ | ⟨_ | ⟨c, cs⟩, fault | events⟩
  · cases h
  · cases h
  · cases h
  · cases h
  · rw [minify_answer] at h
    rw [minify_answer, htools, hservice]
    cases hfault : (Page.minifyEvents s.tools m.settings.options s.service events).fault with
    | some fault =>
      rw [hfault] at h
      cases h
    | none =>
      rw [hfault] at h
      cases h
      exact ⟨_, page_append _ _, by rw [page_append]⟩

/-- **What a failed page leaves behind.**  A page that fails leaves the results as they were exactly
if none of its end tags was written before the fault.  This is also exactly when the next page that
comes through is answered as in a session in which the failed page was never minified. -/
theorem results_of_failure_iff (s : Session) (name : Text) (m : Minifier)
    (page : Option (Text × Except Fault (List Event))) (fault : Fault)
    (hfail : (s.minify name m page).2.answer = .error fault) :
    let failed := (s.minify name m page).1
    (failed.results = s.results ↔ s.Unwritten m page) ∧
      ∀ (other : Text) (m' : Minifier) (later : Option (Text × Except Fault (List Event)))
        (t : Text), (failed.minify other m' later).2.answer = .ok (.text t) →
          ((({ s with service := failed.service } : Session).minify other m' later).2.answer
              = .ok (.text t) ↔ s.Unwritten m page) := by
  intro failed
  obtain ⟨residue, hresults, hseen, hwritten⟩ := results_of_failure hfail
  refine ⟨?_, fun other m' later t hlater => ?_⟩
  · rw [← hwritten, hresults, List.append_right_eq_self]
  · obtain ⟨own, rfl, hanswer⟩ := exists_answer_append
      { s with service := failed.service } (minify_tools s name m page).symm rfl hlater
    rw [hanswer, ← hwritten, ← hseen, hresults, page_append, List.append_assoc]
    simp only [Except.ok.injEq, Answer.text.injEq, List.append_cancel_left_eq,
      List.self_eq_append_left]

/-- A page that fails after a row of a table, whose end tag is implied: nothing of it is left, and
the next page is answered alone. -/
theorem results_of_failure_iff_row :
    let page : List Event := [.start "tr" [], .data (some "a"), .finish "tr",
      .start "a" [⟨"name", some "b"⟩]]
    let later : List Event := [.start "i" [], .data (some "c"), .finish "i"]
    let failed := (({} : Session).minify "m" {} (some (['x'], .ok page))).1
    ({} : Session).Unwritten {} (some (['x'], .ok page)) ∧
      (({ service := failed.service } : Session).minify "n" {} (some (['y'], .ok later))).2.answer
        = (failed.minify "n" {} (some (['y'], .ok later))).2.answer := by
  intro page later failed
  have hoptions : ({} : Minifier).settings.options = {} := Settings.options_default
  have hfail : (({} : Session).minify "m" {} (some (['x'], .ok page))).2.answer
      = .error .siblingsUnreadable := by
    refine answer_of_fault ?_ "m" 'x' []
    rw [hoptions]
    decide +kernel
  have hresults : failed.results = [] := by
    rw [minify_results, hoptions]
    decide +kernel
  have hiff := results_of_failure_iff {} "m" {} _ _ hfail
  have hunwritten := hiff.1.1 hresults
  obtain ⟨t, hlater⟩ : ∃ t, (failed.minify "n" {} (some (['y'], .ok later))).2.answer
      = .ok (.text t) := by
    refine exists_answer_of_no_fault ?_ "n" 'y' []
    rw [hoptions]
    decide +kernel
  exact ⟨hunwritten, by rw [hlater, (hiff.2 "n" {} _ t hlater).2 hunwritten]⟩

/-- A page that fails after a paragraph: the paragraph stays in the results, and comes out in front
of the next page. -/
theorem results_of_failure_paragraph :
    let page : List Event := [.start "p" [], .data (some "a"), .finish "p",
      .start "a" [⟨"name", some "b"⟩]]
    let later : List Event := [.start "i" [], .data (some "c"), .finish "i"]
    let failed := (({} : Session).minify "m" {} (some (['x'], .ok page))).1
    (({} : Session).minify "m" {} (some (['x'], .ok page))).2.answer
        = .error .siblingsUnreadable ∧
      failed.results = ([("<!DOCTYPE html>" : Text), "<", "p", ">", "a", "</", "p", ">"] :
        List Text) ∧
      (failed.minify "n" {} (some (['y'], .ok later))).2.answer
        = .ok (.text "<!DOCTYPE html><p>a</p><!DOCTYPE html><i>c</i>") := by
  intro page later failed
  have hoptions : ({} : Minifier).settings.options = {} := Settings.options_default
  have hresults : failed.results = ([("<!DOCTYPE html>" : Text), "<", "p", ">", "a", "</", "p",
      ">"] : List Text) := by
    rw [minify_results, hoptions]
    decide +kernel
  have hfault : (Page.minifyEvents {} {} { replies := [] } later).fault = none := by decide +kernel
  have htext : Chunk.page failed.results ++ loneText {} {} later
      = "<!DOCTYPE html><p>a</p><!DOCTYPE html><i>c</i>".toList := by
    rw [hresults]
    decide +kernel
  refine ⟨answer_of_fault ?_ "m" 'x' [], hresults, ?_⟩
  · rw [hoptions]
    decide +kernel
  · have htools : failed.tools = {} := rfl
    rw [answer_minify rfl, hoptions, htools, hfault, htext]

end Session

end PagePress

import PagePress.Proofs.OpenElements

/-!
# What is handed to the compactors

An end tag hands the text of its element to a compactor if the tag started last is that of a script
or of a style.  But the tag started last need not be the element that ends: it may be one inside of
it that has ended before.  So a text behind a script is handed to the script compactor, and goes to
the compile service if none is installed.

* `Run.handed?` is the text that an end tag hands to the compactor of a kind; `closingText_eq` says
  that it hands over this and nothing else, and `feed_requests` that the compile service is sent
  exactly the scripts that are handed over.
* `conceal kind inner events` hides everything from which no text for the compactor of a kind may be
  made: comments, and the texts outside of the elements of that kind.
* `OwnTextOnly` says that what is handed over is made from nothing else: no two pages that look the
  same after concealing differ in it.
* `Exposed` are the places where a text would be handed over: the tag started last is of the kind,
  and the next tag is an end tag.  `ownTextOnly_iff` shows that a page keeps to its own texts
  exactly if all its exposed texts stand in an element of the kind.
-/

set_option autoImplicit false

namespace PagePress

open Transcript

/-! ## Handing over -/

/-- The tag of the elements of a kind. -/
def RawKind.tag : RawKind → Text
  | .script => "script"
  | .style => "style"

theorem RawKind.ofTag?_eq_some_iff {tag : Text} {kind : RawKind} :
    ofTag? tag = some kind ↔ tag = kind.tag := by
  constructor
  · intro h
    rw [ofTag?] at h
    split at h
    · rename_i htag
      cases h
      exact eq_of_beq htag
    · split at h
      · rename_i htag
        cases h
        exact eq_of_beq htag
      · cases h
  · rintro rfl
    cases kind <;> rfl

/-- Whether a text is to be compacted in an element of the kind with the given attributes: the
options say so, and a script does not stand elsewhere. -/
def RawKind.isCompacted (o : Options) (attrs : Option Attributes) : RawKind → Bool
  | .script => o.minifyJS && !attrs.any (·.has "src")
  | .style => o.minifyCSS

/-- Compacts a text of a kind. -/
def Tools.compact (tools : Tools) (s : Service) (t : Text) : RawKind → Except Fault Text × Service
  | .script => tools.compactScript s (some t) none
  | .style => (tools.compactStyle (some t) none, s)

/-- The request to compile a script. -/
def Tools.request (code : Text) : Request := Service.compileRequest headers ("js_code", code)

namespace Run

/-- The text that an end tag hands to the compactor of a kind, if any. -/
def handed? (o : Options) (kind : RawKind) (r : Run) : Option Text :=
  let text := Wrapper.unwrap o kind r.pending
  if r.tag == kind.tag && kind.isCompacted o r.attrs && !Text.allBlank text then some text else none

variable {tools : Tools} {o : Options} {past : List Event} {r : Run} {s : Service}

/-- **What an end tag hands over.**  It is all that the compactors get. -/
theorem closingText_eq {kind : RawKind} (hkind : r.tag = kind.tag) :
    r.closingText tools o s =
      match r.handed? o kind with
      | some t => tools.compact s t kind
      | none => (.ok (Wrapper.unwrap o kind r.pending), s) := by
  rw [closingText, RawKind.ofTag?_eq_some_iff.2 hkind, handed?, hkind, BEq.rfl, Bool.true_and]
  by_cases hcond : (kind.isCompacted o r.attrs &&
      !Text.allBlank (Wrapper.unwrap o kind r.pending)) = true
  · rw [if_pos hcond]
    cases kind with
    | script =>
      rw [RawKind.isCompacted, Bool.and_right_comm] at hcond
      exact if_pos hcond
    | style => exact if_pos hcond
  · rw [if_neg hcond]
    cases kind with
    | script =>
      rw [RawKind.isCompacted, Bool.and_right_comm] at hcond
      exact if_neg hcond
    | style => exact if_neg hcond

theorem handed?_eq_none {kind : RawKind} (hkind : r.tag ≠ kind.tag) : r.handed? o kind = none := by
  simp [handed?, hkind]

/-- The compile service after an end tag: only a script that is handed over changes it. -/
theorem closingText_snd (tools : Tools) (o : Options) (r : Run) (s : Service) :
    (r.closingText tools o s).2 =
      match r.handed? o .script with
      | some t => (tools.compactScript s (some t) none).2
      | none => s := by
  by_cases hscript : r.tag = RawKind.script.tag
  · rw [closingText_eq hscript]
    cases r.handed? o .script <;> rfl
  · rw [handed?_eq_none hscript]
    by_cases hstyle : r.tag = RawKind.style.tag
    · rw [closingText_eq hstyle]
      cases r.handed? o .style <;> rfl
    · have hplain : RawKind.ofTag? r.tag = none := by
        cases hkind : RawKind.ofTag? r.tag with
        | none => rfl
        | some kind =>
          rw [RawKind.ofTag?_eq_some_iff] at hkind
          cases kind with
          | script => exact absurd hkind hscript
          | style => exact absurd hkind hstyle
      rw [closingText, hplain]

/-! ## Requests -/

/-- The texts that the end tags among events hand to the compactor of a kind, up to the first
fault. -/
def handouts (tools : Tools) (o : Options) (kind : RawKind) (r : Run) (s : Service)
    (events : List Event) : List Text :=
  (r.atEnds tools o s events).filterMap fun p => p.1.handed? o kind

theorem compile_requests (s : Service) (source : Text × Text) (code : Option Text) :
    (Tools.compile s source code).2.requests
      = s.requests ++ [Service.compileRequest Tools.headers source] := by
  rw [Tools.compile, Service.send]
  cases s.replies with
  | nil => rfl
  | cons reply replies =>
    dsimp only
    split
    · cases code <;> rfl
    · rfl

theorem close_service_eq (tag : Text) : (r.close o s tag).service = s := by
  rw [close]
  cases r.closing o tag <;> rfl

theorem finish_service (tag : Text) :
    (r.finish tools o s tag).service = (r.closingText tools o s).2 := by
  rw [finish]
  split
  · rename_i htext
    rw [htext]
  · rename_i htext
    rw [htext, close_service_eq]

/-- An end tag sends the script that it hands over, if no compactor is installed. -/
theorem finish_requests (htool : tools.script = false) (tag : Text) :
    (r.finish tools o s tag).service.requests
      = s.requests ++ (r.handed? o .script).toList.map Tools.request := by
  rw [finish_service, closingText_snd]
  cases r.handed? o .script with
  | none => simp
  | some t =>
    simp only [Tools.compactScript, htool, Bool.false_eq_true, if_false, compile_requests]
    rfl

theorem step_service_eq {e : Event} (he : ∀ tag, e ≠ .finish tag) :
    (r.step tools o s e).service = s := by
  cases e with
  | finish tag => exact absurd rfl (he tag)
  | start tag attrs => rfl
  | data t => rfl
  | comment t => rfl

/-- **The compile service is sent what is handed over**, in order and nothing else. -/
theorem feed_requests (htool : tools.script = false) (events : List Event) :
    (r.feed tools o s events).service.requests
      = s.requests ++ (r.handouts tools o .script s events).map Tools.request := by
  induction events generalizing r s with
  | nil => simp [feed, handouts, atEnds]
  | cons e es ih =>
    have hrest : (r.feed tools o s (e :: es)).service.requests =
        (r.step tools o s e).service.requests ++ ((atEndsAfter tools o (r.step tools o s e)
          es).filterMap fun p => p.1.handed? o .script).map Tools.request := by
      cases hfault : (r.step tools o s e).fault with
      | some fault =>
        rw [feed_cons_of_fault hfault, atEndsAfter, hfault]
        simp
      | none =>
        rw [feed_cons_of_no_fault hfault, atEndsAfter, hfault]
        exact ih
    rw [hrest, handouts]
    by_cases he : ∃ tag, e = .finish tag
    · obtain ⟨tag, rfl⟩ := he
      rw [atEnds_finish, step, finish_requests htool, List.append_assoc, ← List.map_append]
      cases hhanded : r.handed? o .script with
      | none => simp [hhanded]
      | some t => simp [hhanded]
    · have he' : ∀ tag, e ≠ .finish tag := fun tag h => he ⟨tag, h⟩
      rw [atEnds_cons he', step_service_eq he']

end Run

/-! ## Concealing -/

/-- The open elements after an event. -/
def Event.nest (inner : List Text) : Event → List Text
  | .start tag _ => tag.lower :: inner
  | .finish _ => inner.tail
  | _ => inner

/-- The event without its text, unless that stands in an element of the kind, and without what it
says as a comment. -/
def Event.conceal (kind : RawKind) (inner : List Text) : Event → Event
  | .data t => .data (if inner.head? = some kind.tag then t else none)
  | .comment _ => .comment []
  | e => e

namespace Transcript

/-- The events inside of open elements, innermost first, with all texts concealed but those that
stand in an element of the kind. -/
def conceal (kind : RawKind) : List Text → List Event → List Event
  | _, [] => []
  | inner, e :: es => e.conceal kind inner :: conceal kind (e.nest inner) es

theorem openElements_cons (e : Event) (past : List Event) :
    openElements (e :: past) = e.nest (openElements past) := by
  cases e <;> rfl

theorem nest_conceal (kind : RawKind) (inner inner' : List Text) (e : Event) :
    (e.conceal kind inner).nest inner' = e.nest inner' := by
  cases e <;> rfl

theorem conceal_conceal (kind : RawKind) (inner : List Text) (es : List Event) :
    conceal kind inner (conceal kind inner es) = conceal kind inner es := by
  induction es generalizing inner with
  | nil => rfl
  | cons e es ih =>
    rw [conceal, conceal, nest_conceal, ih]
    congr 1
    cases e with
    | data t => simp only [Event.conceal]; split <;> rfl
    | start tag attrs => rfl
    | finish tag => rfl
    | comment t => rfl

/-- Events that look the same are the same tag, or two texts, or two comments. -/
theorem conceal_inv {kind : RawKind} {inner : List Text} {e e' : Event}
    (h : e'.conceal kind inner = e.conceal kind inner) :
    (∃ tag attrs, e = .start tag attrs ∧ e' = .start tag attrs) ∨
      (∃ tag, e = .finish tag ∧ e' = .finish tag) ∨
      (∃ t t', e = .data t ∧ e' = .data t' ∧ (inner.head? = some kind.tag → t' = t)) ∨
      ∃ t t', e = .comment t ∧ e' = .comment t' := by
  cases e <;> cases e' <;> simp only [Event.conceal, reduceCtorEq, Event.start.injEq,
    Event.finish.injEq, Event.data.injEq] at h
  · exact .inl ⟨_, _, rfl, by rw [h.1, h.2]⟩
  · exact .inr (.inl ⟨_, rfl, by rw [h]⟩)
  · refine .inr (.inr (.inl ⟨_, _, rfl, rfl, fun hkind => ?_⟩))
    rwa [if_pos hkind, if_pos hkind] at h
  · exact .inr (.inr (.inr ⟨_, _, rfl, rfl⟩))

/-- The attributes of the tag started last. -/
def lastAttrs : List Event → Option Attributes
  | [] => none
  | .start _ attrs :: _ => some attrs
  | _ :: past => lastAttrs past

/-- Whether a text after a past and before the given events would be handed to the compactor of a
kind: the tag started last is of the kind and its text is compacted, and the next tag is an end
tag. -/
def Exposed (o : Options) (kind : RawKind) (past after : List Event) : Prop :=
  lastTag past = kind.tag ∧ kind.isCompacted o (lastAttrs past) = true ∧ endsNext after = true

/-- A text that is exposed stands in an element of the kind. -/
def Housed (o : Options) (kind : RawKind) (past : List Event) (e : Event) (after : List Event) :
    Prop :=
  ∀ t, e = .data t → Exposed o kind past after → (openElements past).head? = some kind.tag

end Transcript

namespace Run

/-- What end tags hand to the compactor of a kind is made from the texts in elements of that kind
only: where another page looks the same after concealing, and both come to an end tag, they hand
over the same. -/
def OwnTextOnly (tools : Tools) (o : Options) (kind : RawKind) (inner : List Text) (r : Run)
    (s : Service) (events : List Event) : Prop :=
  ∀ others, conceal kind inner others = conceal kind inner events →
    ∀ (n : Nat) (p q : Run × Service), (r.atEnds tools o s events)[n]? = some p →
      (r.atEnds tools o s others)[n]? = some q → p.1.handed? o kind = q.1.handed? o kind

end Run

variable {tools : Tools} {o : Options} {kind : RawKind} {past : List Event} {r r' : Run}
  {s s' : Service}

/-! ## Two pages that look the same -/

namespace Transcript

/-- The run `r` knows the tags of `past`, and the attributes of the one started last. -/
structure Recalls (o : Options) (past : List Event) (r : Run) : Prop extends Knows o past r where
  /-- The attributes of the tag started last. -/
  attrs : r.attrs = lastAttrs past

theorem recalls_opening (o : Options) : Recalls o [] (Page.opening o) := ⟨knows_opening o, rfl⟩

theorem step_recalls (h : Recalls o past r) {e : Event} (hok : (r.step tools o s e).fault = none) :
    Recalls o (e :: past) (r.step tools o s e).run := by
  refine ⟨step_knows h.toKnows hok, ?_⟩
  cases e with
  | start tag attrs =>
    obtain ⟨chunks, hrun⟩ := Run.start_inv hok
    show (r.start o tag attrs).1.attrs = _
    rw [hrun]
    rfl
  | finish tag =>
    obtain ⟨text, chunks, -, hrun⟩ := Run.finish_inv hok
    show (r.finish tools o s tag).run.attrs = _
    rw [hrun]
    exact h.attrs
  | data t => cases t <;> exact h.attrs
  | comment t => exact h.attrs

end Transcript

namespace Run

/-- Two runs agree in all that decides what is handed to the compactor of a kind at the next end
tag.  The pending texts need not agree elsewhere, nor where a start tag comes first. -/
structure Agree (o : Options) (kind : RawKind) (r r' : Run) (s s' : Service) (es : List Event) :
    Prop where
  tag : r.tag = r'.tag
  attrs : r.attrs = r'.attrs
  keepEnds : r.keepEnds = r'.keepEnds
  keepRuns : r.keepRuns = r'.keepRuns
  /-- Only scripts go to the compile service. -/
  service : kind = .script → s = s'
  pending : r.tag = kind.tag → kind.isCompacted o r.attrs = true → endsNext es = true →
    r.pending = r'.pending

theorem Agree.handed?_eq {es : List Event} (h : Agree o kind r r' s s' es)
    (hends : endsNext es = true) : r.handed? o kind = r'.handed? o kind := by
  by_cases hkind : r.tag = kind.tag
  · by_cases hcompact : kind.isCompacted o r.attrs = true
    · rw [handed?, handed?, h.pending hkind hcompact hends, h.tag, h.attrs]
    · have hcompact' : kind.isCompacted o r'.attrs ≠ true := h.attrs ▸ hcompact
      simp [handed?, hcompact, hcompact']
  · rw [handed?_eq_none hkind, handed?_eq_none (h.tag ▸ hkind)]

theorem Agree.normalize_eq {es : List Event} (h : Agree o kind r r' s s' es) (t : Text) :
    r.normalize o t = r'.normalize o t := by
  rw [normalize, normalize, h.tag, h.keepEnds, h.keepRuns]

/-- The text of the element that ends is the same in runs that agree. -/
theorem Agree.closingText_eq (tools : Tools) {es : List Event} (h : Agree o kind r r' s s' es)
    (hends : endsNext es = true) (hkind : r.tag = kind.tag)
    (hcompact : kind.isCompacted o r.attrs = true) :
    (r.closingText tools o s).1 = (r'.closingText tools o s').1 := by
  rw [Run.closingText_eq hkind, Run.closingText_eq (h.tag ▸ hkind), ← h.handed?_eq hends,
    ← h.pending hkind hcompact hends]
  cases r.handed? o kind with
  | none => rfl
  | some t =>
    cases kind with
    | script => rw [h.service rfl]
    | style => rfl

theorem Agree.start {tag : Text} {attrs : Attributes} {es : List Event}
    (h : Agree o kind r r' s s' (.start tag attrs :: es))
    (hok : (r.start o tag attrs).2 = none) (hok' : (r'.start o tag attrs).2 = none) :
    Agree o kind (r.start o tag attrs).1 (r'.start o tag attrs).1 s s' es := by
  obtain ⟨chunks, hrun⟩ := start_inv hok
  obtain ⟨chunks', hrun'⟩ := start_inv hok'
  rw [hrun, hrun']
  refine ⟨rfl, rfl, ?_, ?_, h.service, fun _ _ _ => rfl⟩
  · simp only [write, enter, h.keepEnds]
  · simp only [write, enter, h.keepRuns]

theorem Agree.finish {tag : Text} {es : List Event}
    (h : Agree o kind r r' s s' (.finish tag :: es))
    (hok : (r.finish tools o s tag).fault = none)
    (hok' : (r'.finish tools o s' tag).fault = none) :
    Agree o kind (r.finish tools o s tag).run (r'.finish tools o s' tag).run
      (r.finish tools o s tag).service (r'.finish tools o s' tag).service es := by
  have hservice : kind = .script →
      (r.finish tools o s tag).service = (r'.finish tools o s' tag).service := by
    rintro rfl
    rw [finish_service, finish_service, closingText_snd, closingText_snd, h.handed?_eq rfl,
      h.service rfl]
  obtain ⟨text, chunks, htext, hrun⟩ := finish_inv hok
  obtain ⟨text', chunks', htext', hrun'⟩ := finish_inv hok'
  rw [hrun, hrun']
  refine ⟨h.tag, h.attrs, ?_, ?_, hservice, fun hkind hcompact _ => ?_⟩
  · simp only [settle, h.keepEnds]
  · simp only [settle, h.keepRuns]
  · have hsame := h.closingText_eq tools rfl hkind hcompact
    rw [htext, htext'] at hsame
    cases hsame
    rfl

/-- A text leaves two runs in agreement if it is the same for both wherever the pending text
counts. -/
theorem Agree.data {t t' : Option Text} {es : List Event}
    (h : Agree o kind r r' s s' (.data t :: es))
    (hsame : r.tag = kind.tag → kind.isCompacted o r.attrs = true → endsNext es = true → t' = t) :
    Agree o kind (r.data o t) (r'.data o t') s s' es := by
  have hframe : ∀ (r : Run) (t : Option Text), (r.data o t).tag = r.tag ∧
      (r.data o t).attrs = r.attrs ∧ (r.data o t).keepEnds = r.keepEnds ∧
      (r.data o t).keepRuns = r.keepRuns := by
    intro r t
    cases t <;> exact ⟨rfl, rfl, rfl, rfl⟩
  obtain ⟨htag, hattrs, hends, hruns⟩ := hframe r t
  obtain ⟨htag', hattrs', hends', hruns'⟩ := hframe r' t'
  refine ⟨by rw [htag, htag', h.tag], by rw [hattrs, hattrs', h.attrs],
    by rw [hends, hends', h.keepEnds], by rw [hruns, hruns', h.keepRuns], h.service, ?_⟩
  rw [htag, hattrs]
  intro hkind hcompact hnext
  obtain rfl := hsame hkind hcompact hnext
  cases t' with
  | none => exact h.pending hkind hcompact hnext
  | some t =>
    show r.pending ++ r.normalize o t = r'.pending ++ r'.normalize o t
    rw [h.pending hkind hcompact hnext, h.normalize_eq]

/-- **Runs that agree still agree after events that look the same**, if a text that is exposed
stands in an element of the kind. -/
theorem Agree.step {inner : List Text} {e e' : Event} {es : List Event}
    (h : Agree o kind r r' s s' (e :: es)) (hsame : e'.conceal kind inner = e.conceal kind inner)
    (hhoused : ∀ t, e = .data t → r.tag = kind.tag → kind.isCompacted o r.attrs = true →
      endsNext es = true → inner.head? = some kind.tag)
    (hok : (r.step tools o s e).fault = none) (hok' : (r'.step tools o s' e').fault = none) :
    Agree o kind (r.step tools o s e).run (r'.step tools o s' e').run
      (r.step tools o s e).service (r'.step tools o s' e').service es := by
  rcases conceal_inv hsame with ⟨tag, attrs, rfl, rfl⟩ | ⟨tag, rfl, rfl⟩ | ⟨t, t', rfl, rfl, ht⟩ |
    ⟨t, t', rfl, rfl⟩
  · exact h.start hok hok'
  · exact h.finish hok hok'
  · exact h.data fun hkind hcompact hnext => ht (hhoused t rfl hkind hcompact hnext)
  · exact ⟨h.tag, h.attrs, h.keepEnds, h.keepRuns, h.service, h.pending⟩

theorem atEndsAfter_getElem? {first : Step} {es : List Event} {n : Nat} {p : Run × Service}
    (h : (atEndsAfter tools o first es)[n]? = some p) :
    first.fault = none ∧ (first.run.atEnds tools o first.service es)[n]? = some p := by
  rw [atEndsAfter] at h
  cases hfault : first.fault with
  | some fault => simp [hfault] at h
  | none =>
    rw [hfault] at h
    exact ⟨rfl, h⟩

/-- Runs that agree hand over the same as long as all exposed texts stand in an element of the
kind. -/
theorem Agree.handouts_eq {events others : List Event} (h : Agree o kind r r' s s' events)
    (hrecalls : Recalls o past r)
    (hsame : conceal kind (openElements past) others = conceal kind (openElements past) events)
    (hhoused : Throughout tools o (Housed o kind) past r s events) {n : Nat} {p q : Run × Service}
    (hp : (r.atEnds tools o s events)[n]? = some p)
    (hq : (r'.atEnds tools o s' others)[n]? = some q) :
    p.1.handed? o kind = q.1.handed? o kind := by
  induction events generalizing past r r' s s' others n with
  | nil => simp [atEnds] at hp
  | cons e es ih =>
    cases others with
    | nil => simp [conceal] at hsame
    | cons e' es' =>
      rw [conceal, conceal, List.cons.injEq] at hsame
      obtain ⟨hfirst, hrest⟩ := hsame
      have hnest : e'.nest (openElements past) = openElements (e :: past) := by
        rw [openElements_cons, ← nest_conceal kind (openElements past), hfirst, nest_conceal]
      rw [hnest, ← openElements_cons] at hrest
      obtain ⟨hhead, htail⟩ := throughout_cons.1 hhoused
      have hlater : ∀ {n : Nat}, (atEndsAfter tools o (r.step tools o s e) es)[n]? = some p →
          (atEndsAfter tools o (r'.step tools o s' e') es')[n]? = some q →
          p.1.handed? o kind = q.1.handed? o kind := by
        intro n hp hq
        obtain ⟨hok, hp⟩ := atEndsAfter_getElem? hp
        obtain ⟨hok', hq⟩ := atEndsAfter_getElem? hq
        refine ih (h.step hfirst ?_ hok hok') (step_recalls hrecalls hok) hrest (htail hok) hp hq
        intro t he hkind hcompact hnext
        exact hhead t he ⟨hrecalls.tag ▸ hkind, hrecalls.attrs ▸ hcompact, hnext⟩
      rcases conceal_inv hfirst with ⟨tag, attrs, rfl, rfl⟩ | ⟨tag, rfl, rfl⟩ |
        ⟨t, t', rfl, rfl, -⟩ | ⟨t, t', rfl, rfl⟩
      · rw [atEnds_cons (by simp)] at hp hq
        exact hlater hp hq
      · rw [atEnds_finish] at hp hq
        cases n with
        | zero =>
          rw [List.getElem?_cons_zero, Option.some.injEq] at hp hq
          rw [← hp, ← hq]
          exact h.handed?_eq rfl
        | succ n => exact hlater hp hq
      · rw [atEnds_cons (by simp)] at hp hq
        exact hlater hp hq
      · rw [atEnds_cons (by simp)] at hp hq
        exact hlater hp hq

end Run

/-! ## Texts that are exposed -/

namespace Transcript

/-- An end tag names an element by its tag, or by its tag in another letter case. -/
def namesAnyCase (tag top : Text) : Bool := tag == top || tag.lower == top

/-- The end tag of a script or style is never implied. -/
theorem ne_tag_of_namesAnyCase {tag top : Text} (hnames : namesAnyCase tag top = true)
    (hoptional : hasOptionalEnd tag = true) (kind : RawKind) : top ≠ kind.tag := by
  have hsame : tag.lower = tag ∧ tag ≠ kind.tag := by
    simp only [hasOptionalEnd, List.contains_iff_mem, List.mem_cons, List.not_mem_nil,
      or_false] at hoptional
    cases kind <;> rcases hoptional with rfl | rfl | rfl | rfl | rfl <;> decide +kernel
  rw [namesAnyCase, hsame.1, Bool.or_self, beq_iff_eq] at hnames
  exact hnames ▸ hsame.2

end Transcript

namespace Run

theorem unwrap_nil (o : Options) (kind : RawKind) : Wrapper.unwrap o kind [] = [] := by
  rw [Wrapper.unwrap]
  cases o.removeCommentsFromCDATA <;> cases o.removeCDATASectionsFromCDATA <;> cases kind <;> rfl

/-- A letter on its own passes through all that is done to a text before it is handed over. -/
theorem unwrap_letter (o : Options) (kind : RawKind) {c : Char} (hc : c = 'a' ∨ c = 'b') :
    Wrapper.unwrap o kind [c] = [c] := by
  rw [Wrapper.unwrap]
  cases o.removeCommentsFromCDATA <;> cases o.removeCDATASectionsFromCDATA <;> cases kind <;>
    rcases hc with rfl | rfl <;> decide

theorem normalize_letter (o : Options) (r : Run) {c : Char} (hc : isBlank c = false) :
    r.normalize o [c] = [c] := by
  have hstrip : Text.strip [c] = [c] := by simp [Text.strip, Text.stripStart, Text.stripEnd, hc]
  have hcollapse : Text.collapse [c] = [c] := by
    simp [Text.collapse, Text.collapseAfter, Text.Gap.text, hc]
  rw [normalize]
  split
  · dsimp only
    split <;> split <;> simp [hstrip, hcollapse]
  · rfl

/-- An end tag hands over a letter that waits for it. -/
theorem handed?_letter {c : Char} (hc : c = 'a' ∨ c = 'b') (hpending : r.pending = [c])
    (htag : r.tag = kind.tag) (hcompact : kind.isCompacted o r.attrs = true) :
    r.handed? o kind = some [c] := by
  have hink : isBlank c = false := by rcases hc with rfl | rfl <;> decide
  simp [handed?, hpending, unwrap_letter o kind hc, htag, hcompact, Text.allBlank, hink]

/-- The first end tag, where no start tag comes before it. -/
theorem exists_atEnds (tools : Tools) (o : Options) (r : Run) (s : Service) {es : List Event}
    (hends : endsNext es = true) : ∃ p, (r.atEnds tools o s es)[0]? = some p := by
  induction es generalizing r with
  | nil => cases hends
  | cons e es ih =>
    cases e with
    | start tag attrs => cases hends
    | finish tag => exact ⟨(r, s), rfl⟩
    | data t => exact ih (r.data o t) hends
    | comment t => exact ih (r.comment o t) hends

/-- It finds the pending text as it was if all texts before it are concealed. -/
theorem exists_atEnds_conceal {inner : List Text} (hinner : inner.head? ≠ some kind.tag)
    {es : List Event} (hends : endsNext es = true) :
    ∃ r', (r.atEnds tools o s (conceal kind inner es))[0]? = some (r', s) ∧
      r'.pending = r.pending ∧ r'.tag = r.tag ∧ r'.attrs = r.attrs := by
  induction es generalizing r with
  | nil => cases hends
  | cons e es ih =>
    cases e with
    | start tag attrs => cases hends
    | finish tag => exact ⟨r, rfl, rfl, rfl, rfl⟩
    | data t =>
      rw [conceal, Event.conceal, if_neg hinner, atEnds_cons (by simp)]
      exact ih hends
    | comment t =>
      rw [conceal, Event.conceal, atEnds_cons (by simp)]
      exact ih (r := r.comment o []) hends

/-- **A text that is exposed outside of the elements of the kind decides what is handed over**, if
nothing waits before it. -/
theorem OwnTextOnly.head?_eq {inner : List Text} {t : Option Text} {es : List Event}
    (h : OwnTextOnly tools o kind inner r s (.data t :: es)) (hpending : r.pending = [])
    (htag : r.tag = kind.tag) (hcompact : kind.isCompacted o r.attrs = true)
    (hends : endsNext es = true) : inner.head? = some kind.tag := by
  by_contra hinner
  have hfirst : endsNext (.data t :: es) = true := hends
  obtain ⟨p, hp⟩ := exists_atEnds tools o r s hfirst
  -- any letter could be handed over in place of what is
  have hletter : ∀ c, c = 'a' ∨ c = 'b' → p.1.handed? o kind = some [c] := by
    intro c hc
    have hsame : conceal kind inner (.data (some [c]) :: conceal kind inner es)
        = conceal kind inner (.data t :: es) := by
      rw [conceal, conceal, Event.conceal, Event.conceal, if_neg hinner, if_neg hinner]
      exact congrArg _ (conceal_conceal kind inner es)
    obtain ⟨r', hr', hpending', htag', hattrs'⟩ :=
      exists_atEnds_conceal (r := r.data o (some [c])) (o := o) (s := s) hinner hends
    have hq : (r.atEnds tools o s (.data (some [c]) :: conceal kind inner es))[0]?
        = some (r', s) := by
      rw [atEnds_cons (by simp)]
      exact hr'
    have hink : isBlank c = false := by rcases hc with rfl | rfl <;> decide
    have hwaits : r'.pending = [c] := by
      rw [hpending', data, hpending, normalize_letter o r hink]
      rfl
    rw [h _ hsame 0 p (r', s) hp hq]
    exact handed?_letter hc hwaits (htag'.trans htag) (hattrs' ▸ hcompact)
  have hclash := (hletter 'a' (.inl rfl)).symm.trans (hletter 'b' (.inr rfl))
  simp at hclash

theorem OwnTextOnly.tail {inner : List Text} {e : Event} {es : List Event}
    (h : OwnTextOnly tools o kind inner r s (e :: es)) (hok : (r.step tools o s e).fault = none) :
    OwnTextOnly tools o kind (e.nest inner) (r.step tools o s e).run (r.step tools o s e).service
      es := by
  intro others hsame n p q hp hq
  have hsame' : conceal kind inner (e :: others) = conceal kind inner (e :: es) := by
    rw [conceal, conceal, hsame]
  obtain ⟨own, hown⟩ := exists_atEnds_append tools o r s e
  have hlater : ∀ es, (r.atEnds tools o s (e :: es))[own.length + n]?
      = ((r.step tools o s e).run.atEnds tools o (r.step tools o s e).service es)[n]? := by
    intro es
    rw [hown, List.getElem?_append_right (Nat.le_add_right _ _), Nat.add_sub_cancel_left,
      atEndsAfter, hok]
  exact h _ hsame' (own.length + n) p q ((hlater es).trans hp) ((hlater others).trans hq)

/-- Nothing waits where a text would be exposed outside of the elements of the kind. -/
def Quiet (o : Options) (kind : RawKind) (past : List Event) (r : Run) (es : List Event) : Prop :=
  r.tag = kind.tag → kind.isCompacted o r.attrs = true →
    (openElements past).head? ≠ some kind.tag → endsNext es = true → r.pending = []

/-- An end tag keeps that nothing waits: it forgets the pending text, or the pending text was empty
before, since the end tag is implied and so not that of an element of the kind. -/
theorem Quiet.finish {tag : Text} {es : List Event} (h : Quiet o kind past r (.finish tag :: es))
    (hnested : wellNested namesAnyCase (openElements past) (.finish tag :: es) = true)
    (hok : (r.finish tools o s tag).fault = none) :
    Quiet o kind (.finish tag :: past) (r.finish tools o s tag).run es := by
  obtain ⟨text, chunks, htext, hrun⟩ := finish_inv hok
  rw [hrun]
  intro (htag : r.tag = kind.tag) (hcompact : kind.isCompacted o r.attrs = true) _ _
  show (if writesEnd o tag then [] else text) = []
  by_cases hwrites : writesEnd o tag = true
  · exact if_pos hwrites
  · rw [if_neg hwrites]
    have hoptional : hasOptionalEnd tag = true := by
      simp only [writesEnd, Bool.not_eq_true', Bool.not_eq_false, Bool.and_eq_true] at hwrites
      exact hwrites.2
    obtain ⟨top, hopen, hnames⟩ := openElements_of_finish hnested
    have htop : (openElements past).head? ≠ some kind.tag := by
      rw [hopen, List.head?_cons, Ne, Option.some.injEq]
      exact ne_tag_of_namesAnyCase hnames hoptional kind
    have hpending : r.pending = [] := h htag hcompact htop rfl
    have hnone : r.handed? o kind = none := by
      simp [handed?, hpending, unwrap_nil, Text.allBlank]
    rw [closingText_eq htag, hnone, hpending, unwrap_nil] at htext
    exact (Except.ok.inj (congrArg Prod.fst htext)).symm

/-- If a page keeps to its own texts, all exposed texts stand in an element of the kind. -/
theorem OwnTextOnly.throughout {events : List Event}
    (h : OwnTextOnly tools o kind (openElements past) r s events) (hrecalls : Recalls o past r)
    (hnested : wellNested namesAnyCase (openElements past) events = true)
    (hquiet : Quiet o kind past r events) :
    Throughout tools o (Housed o kind) past r s events := by
  induction events generalizing past r s with
  | nil => exact throughout_nil _
  | cons e es ih =>
    have hhoused : Housed o kind past e es := by
      rintro t rfl ⟨htag, hcompact, hends⟩
      by_contra hinner
      rw [← hrecalls.tag] at htag
      rw [← hrecalls.attrs] at hcompact
      exact hinner (h.head?_eq (hquiet htag hcompact hinner hends) htag hcompact hends)
    rw [throughout_cons]
    refine ⟨hhoused, fun hok => ?_⟩
    have hnext := step_recalls hrecalls hok
    refine ih ?_ hnext (wellNested_tail hnested) ?_
    · rw [openElements_cons]
      exact h.tail hok
    · cases e with
      | start tag attrs =>
        obtain ⟨chunks, hrun⟩ := start_inv hok
        intro _ _ _ _
        show (r.start o tag attrs).1.pending = []
        rw [hrun]
        rfl
      | finish tag => exact hquiet.finish hnested hok
      | data t =>
        intro htag hcompact hinner hends
        rw [hnext.tag] at htag
        rw [hnext.attrs] at hcompact
        exact absurd (hhoused t rfl ⟨htag, hcompact, hends⟩) hinner
      | comment t => exact hquiet

end Run

/-! ## When a page keeps to its own texts -/

namespace Page

open Run

/-- **When a page keeps to its own texts.**  For properly nested events and whatever the options
are, the texts that end tags hand to the script compactor are made from texts in scripts only, and
those handed to the style compactor from texts in styles only, exactly if this holds: wherever a
text comes while the tag started last is of the kind and to be compacted, and the next tag is an end
tag, the innermost open element is of the kind.  The compile service is sent the scripts that are
handed over if no script compactor is installed. -/
theorem ownTextOnly_iff (tools : Tools) (o : Options) (s : Service) (events : List Event)
    (hnested : wellNested namesAnyCase [] events = true) :
    (∀ kind, OwnTextOnly tools o kind [] (opening o) s events ↔
        ∀ before t after, events = before ++ .data t :: after →
          ((opening o).feed tools o s before).fault = none →
          Exposed o kind before.reverse after →
          (openElements before.reverse).head? = some kind.tag) ∧
      (tools.script = false → (minifyEvents tools o s events).service.requests
        = s.requests ++ ((opening o).handouts tools o .script s events).map Tools.request) := by
  constructor
  · intro kind
    have hform : Throughout tools o (Housed o kind) [] (opening o) s events ↔
        ∀ before t after, events = before ++ .data t :: after →
          ((opening o).feed tools o s before).fault = none →
          Exposed o kind before.reverse after →
          (openElements before.reverse).head? = some kind.tag := by
      constructor
      · intro h before t after hsplit hok hexposed
        have hhoused := h before _ after hsplit hok t rfl
        rw [List.append_nil] at hhoused
        exact hhoused hexposed
      · intro h before e after hsplit hok t he hexposed
        rw [List.append_nil] at hexposed ⊢
        exact h before t after (he ▸ hsplit) hok hexposed
    rw [← hform]
    constructor
    · intro h
      exact h.throughout (recalls_opening o) hnested fun _ _ _ _ => rfl
    · intro h others hsame n p q hp hq
      have hagree : Agree o kind (opening o) (opening o) s s events :=
        ⟨rfl, rfl, rfl, rfl, fun _ => rfl, fun _ _ _ => rfl⟩
      exact hagree.handouts_eq (recalls_opening o) hsame h hp hq
  · intro htool
    have hservice : (minifyEvents tools o s events).service
        = ((opening o).feed tools o s events).service := by
      rw [minifyEvents, flush]
      split <;> rfl
    rw [hservice, feed_requests htool]

/-- A script before a paragraph: the script alone is handed over, and sent. -/
theorem ownTextOnly_iff_script :
    let tools : Tools := { script := false }
    let s : Service := { replies := ["f()"] }
    let events : List Event :=
      [.start "SCRIPT" [], .data (some "f(); // g"), .finish "script", .start "p" [],
        .data (some "see // here"), .finish "p"]
    wellNested namesAnyCase [] events = true ∧
      (∀ kind, OwnTextOnly tools {} kind [] (opening {}) s events) ∧
      (minifyEvents tools {} s events).service.requests = [Tools.request "f(); // g"] := by
  intro tools s events
  have hnested : wellNested namesAnyCase [] events = true := by decide +kernel
  have hiff := ownTextOnly_iff tools {} s events hnested
  refine ⟨hnested, fun kind => (hiff.1 kind).2 ?_, ?_⟩
  · intro before t after hsplit _ ⟨htag, _, _⟩
    rcases before with _ | ⟨e₁, _ | ⟨e₂, _ | ⟨e₃, _ | ⟨e₄, _ | ⟨e₅, _ | ⟨e₆, before⟩⟩⟩⟩⟩⟩ <;>
      simp [events] at hsplit
    · obtain ⟨rfl, -⟩ := hsplit
      exact congrArg some htag
    · obtain ⟨rfl, rfl, rfl, rfl, -⟩ := hsplit
      cases kind <;> exact absurd htag (by decide +kernel)
  · have hhandouts : (opening {}).handouts tools {} .script s events = ["f(); // g"] := by
      decide +kernel
    rw [hiff.2 rfl, hhandouts]
    rfl

/-- A text behind a script is handed over as if it were a script, and loses what follows `//`. -/
theorem not_ownTextOnly_behind :
    let s : Service := { replies := [] }
    let events : List Event :=
      [.start "p" [], .start "script" [], .finish "script", .data (some "see // here"),
        .finish "p"]
    wellNested namesAnyCase [] events = true ∧
      ¬ OwnTextOnly {} {} .script [] (opening {}) s events ∧
      (opening {}).handouts {} {} .script s events = ["see // here"] ∧
      Chunk.page (minifyEvents {} {} s events).emitted
        = ("<!DOCTYPE html><p><script></script>see</p>" : Text) := by
  intro s events
  have hnested : wellNested namesAnyCase [] events = true := by decide +kernel
  refine ⟨hnested, fun h => ?_, by decide +kernel, by decide +kernel⟩
  have hhoused := h.throughout (recalls_opening {}) hnested (fun _ _ _ _ => rfl)
    [.start "p" [], .start "script" [], .finish "script"] _ _ rfl (by decide +kernel) _ rfl
    ⟨by decide +kernel, by decide +kernel, rfl⟩
  exact absurd hhoused (by decide +kernel)

end Page

end PagePress

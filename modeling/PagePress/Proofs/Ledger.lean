import PagePress.Proofs.Transcript

/-!
# The ledger of a session

All minifiers of a session send their chunks on to one list of results, and every page is answered
with all of that list.  This file shows that the list is a ledger: what a page adds to it depends on
the options and the events of the page only, and not on what is there already nor on the state that
the minifier is in.

* `minifyEvents_service` is where the compile service drops out: with a script compactor installed,
  handling events does not depend on it and leaves it as it is.
* `results_minify` and `answer_minify` say what a page adds to the results and how it is answered,
  in terms of the page on its own (`loneText`).
* `Session.calls` lists the pages that a sequence of actions has minified.  If all of them succeed,
  the answer to each is the texts of all pages up to it, joined (`calls_answer`).
* `minify_history` puts both together.
-/

set_option autoImplicit false

namespace PagePress

/-! ## The compile service is not asked -/

section Service

variable {tools : Tools} {o : Options}

theorem closingText_service (htool : tools.script = true) (r : Run) (s s' : Service) :
    r.closingText tools o s = ((r.closingText tools o s').1, s) := by
  rw [Run.closingText, Run.closingText]
  cases RawKind.ofTag? r.tag with
  | none => rfl
  | some kind =>
    cases kind with
    | script =>
      dsimp only
      split
      · rw [Tools.compactScript, Tools.compactScript, if_pos htool, if_pos htool]
      · rfl
    | style =>
      dsimp only
      split <;> rfl

theorem close_service (r : Run) (s s' : Service) (tag : Text) :
    r.close o s tag = { r.close o s' tag with service := s } := by
  rw [Run.close, Run.close]
  cases r.closing o tag <;> rfl

theorem step_service (htool : tools.script = true) (r : Run) (s s' : Service) (e : Event) :
    r.step tools o s e = { r.step tools o s' e with service := s } := by
  cases e with
  | start tag attrs => rfl
  | finish tag =>
    show r.finish tools o s tag = { r.finish tools o s' tag with service := s }
    have hs := closingText_service (o := o) htool r s s
    have hs' := closingText_service (o := o) htool r s' s
    rw [Run.finish, Run.finish, hs', hs]
    cases (r.closingText tools o s).1 with
    | error fault => rfl
    | ok text => exact close_service _ s s' tag
  | data t => rfl
  | comment t => rfl

theorem feed_service (htool : tools.script = true) (events : List Event) (r : Run)
    (s s' : Service) :
    r.feed tools o s events = { r.feed tools o s' events with service := s } := by
  induction events generalizing r with
  | nil => rfl
  | cons e es ih =>
    have hstep := step_service (o := o) htool r s s' e
    cases hfault : (r.step tools o s' e).fault with
    | some fault =>
      rw [Transcript.feed_cons_of_fault (s := s') hfault,
        Transcript.feed_cons_of_fault (s := s) (by rw [hstep]; exact hfault), hstep]
    | none =>
      have hkeep : (r.step tools o s' e).service = s' :=
        congrArg Step.service (step_service htool r s' s' e)
      rw [Transcript.feed_cons_of_no_fault (s := s') hfault,
        Transcript.feed_cons_of_no_fault (s := s) (by rw [hstep]; exact hfault), hstep, hkeep]
      dsimp only
      rw [ih]

/-- **The service drops out.** -/
theorem minifyEvents_service (htool : tools.script = true) (s s' : Service)
    (events : List Event) :
    Page.minifyEvents tools o s events
      = { Page.minifyEvents tools o s' events with service := s } := by
  rw [Page.minifyEvents, Page.minifyEvents, feed_service htool events _ s s', Page.flush,
    Page.flush]
  dsimp only
  split <;> rfl

end Service

/-! ## One page -/

/-- The text of the page of the events on its own. -/
def loneText (tools : Tools) (o : Options) (events : List Event) : Text :=
  Chunk.page (Page.minifyEvents tools o { replies := [] } events).emitted

theorem page_append (cs ds : List Text) : Chunk.page (cs ++ ds) = Chunk.page cs ++ Chunk.page ds :=
  List.flatMap_append

/-- The events of the page that an action minifies: the page a minifier is made with, or is given
without settings. -/
def Action.pageEvents? : Action → Option (List Event)
  | .create (some (_ :: _, .ok events)) _ => some events
  | .minify (some (_ :: _, .ok events)) none => some events
  | _ => none

/-- Actions that hand an end tag to a minifier outside of a page. -/
def Action.feedsEnd : Action → Bool
  | .handle (.finish _) => true
  | _ => false

/-- A page that was minified, with the answer to it. -/
structure Call where
  /-- The options in force. -/
  options : Options
  /-- The events of the page. -/
  events : List Event
  /-- The answer. -/
  answer : Except Fault Answer

/-- The text that the page of a call has on its own. -/
def Call.text (tools : Tools) (call : Call) : Text := loneText tools call.options call.events

namespace Session

/-- What a page adds to the results. -/
theorem results_minify {s : Session} (htool : s.tools.script = true) (name : Text) (m : Minifier)
    (c : Char) (cs : Text) (events : List Event) :
    (s.minify name m (some (c :: cs, .ok events))).1.results =
      s.results ++
        (Page.minifyEvents s.tools m.settings.options { replies := [] } events).emitted := by
  rw [minify_results, minifyEvents_service htool s.service { replies := [] }]

/-- The answer to a page is that to the page on its own, behind the results that are there. -/
theorem answer_minify {s : Session} (htool : s.tools.script = true) (name : Text) (m : Minifier)
    (c : Char) (cs : Text) (events : List Event) :
    (s.minify name m (some (c :: cs, .ok events))).2.answer =
      match (Page.minifyEvents s.tools m.settings.options { replies := [] } events).fault with
      | some fault => .error fault
      | none =>
        .ok (.text (Chunk.page s.results ++ loneText s.tools m.settings.options events)) := by
  rw [minify_answer, minifyEvents_service htool s.service { replies := [] }, page_append]
  rfl

/-! ## Many actions -/

/-- The options that an action goes by: those of the minifier that it makes, or else of the one of
its name. -/
def optionsFor (s : Session) (name : Text) : Action → Options
  | .create _ settings => (prepare s.tools settings).1.options
  | _ => (s.get name).settings.options

/-- The pages that actions minify, in order. -/
def calls (s : Session) : List (Text × Action) → List Call
  | [] => []
  | (name, action) :: rest =>
    match action.pageEvents? with
    | some events =>
      ⟨s.optionsFor name action, events, (s.act name action).2.answer⟩
        :: (s.act name action).1.calls rest
    | none => (s.act name action).1.calls rest

/-- An action that minifies a page makes its minifier or finds it. -/
theorem pageEvents?_eq_some {action : Action} {events : List Event}
    (h : action.pageEvents? = some events) :
    (∃ c cs settings, action = .create (some (c :: cs, .ok events)) settings) ∨
      ∃ c cs, action = .minify (some (c :: cs, .ok events)) none := by
  unfold Action.pageEvents? at h
  split at h
  · cases h
    exact .inl ⟨_, _, _, rfl⟩
  · cases h
    exact .inr ⟨_, _, rfl⟩
  · cases h

/-- The ledger after an action that minifies a page, and the answer to it. -/
theorem act_of_page {s : Session} (htool : s.tools.script = true) (name : Text) {action : Action}
    {events : List Event} (h : action.pageEvents? = some events) :
    (s.act name action).1.results =
        s.results ++
          (Page.minifyEvents s.tools (s.optionsFor name action) { replies := [] } events).emitted ∧
      (s.act name action).2.answer =
        match (Page.minifyEvents s.tools (s.optionsFor name action) { replies := [] }
          events).fault with
        | some fault => .error fault
        | none =>
          .ok (.text (Chunk.page s.results ++
            loneText s.tools (s.optionsFor name action) events)) := by
  rcases pageEvents?_eq_some h with ⟨c, cs, settings, rfl⟩ | ⟨c, cs, rfl⟩
  · exact ⟨results_minify (s := s.put name _) htool name _ c cs events,
      answer_minify (s := s.put name _) htool name _ c cs events⟩
  · exact ⟨results_minify htool name _ c cs events, answer_minify htool name _ c cs events⟩

theorem get_put_self (s : Session) (name : Text) (m : Minifier) : (s.put name m).get name = m := by
  simp [get, put]

theorem record_results (s : Session) (name : Text) (m : Minifier) (step : Step) :
    (s.record name m step).results = s.results ++ step.emitted := by
  rw [record]
  cases m.ownsChunks <;> cases m.ownsKept <;> rfl

theorem record_tools (s : Session) (name : Text) (m : Minifier) (step : Step) :
    (s.record name m step).tools = s.tools := by
  rw [record]
  cases m.ownsChunks <;> cases m.ownsKept <;> rfl

/-- A page that is missing or that cannot be read adds nothing. -/
theorem minify_quiet (page : Option (Text × Except Fault (List Event)))
    (h : ∀ c cs events, page ≠ some (c :: cs, .ok events)) (s : Session) (name : Text)
    (m : Minifier) : (s.minify name m page).1.results = s.results := by
  rcases page with _ | ⟨_ | ⟨c, cs⟩, read⟩
  · rfl
  · rfl
  · cases read with
    | error fault => exact List.append_nil _
    | ok events => exact absurd rfl (h c cs events)

theorem minify_tools (s : Session) (name : Text) (m : Minifier)
    (page : Option (Text × Except Fault (List Event))) :
    (s.minify name m page).1.tools = s.tools := by
  rcases page with _ | ⟨_ | ⟨c, cs⟩, read⟩ <;> rfl

/-- An action that neither minifies a page nor feeds an end tag adds nothing to the ledger. -/
theorem act_quiet {action : Action} (hpage : action.pageEvents? = none)
    (hend : action.feedsEnd = false) (s : Session) (name : Text) :
    (s.act name action).1.results = s.results := by
  cases action with
  | create page settings =>
    rcases page with _ | ⟨_ | ⟨c, cs⟩, read⟩
    · rfl
    · rfl
    · refine minify_quiet (some (c :: cs, read)) ?_ (s.put name _) name _
      rintro c' cs' events ⟨⟩
      cases hpage
  | handle event =>
    show (s.record name _ _).results = s.results
    rw [record_results]
    cases event with
    | finish tag => cases hend
    | start tag attrs => exact List.append_nil _
    | data t => exact List.append_nil _
    | comment t => exact List.append_nil _
  | doctype text => exact (record_results ..).trans (List.append_nil _)
  | characterReference ref => exact (record_results ..).trans (List.append_nil _)
  | entityReference ref => exact (record_results ..).trans (List.append_nil _)
  | close => rfl
  | minify page settings =>
    cases settings with
    | some settings => rfl
    | none =>
      refine minify_quiet page ?_ s name _
      rintro c cs events rfl
      cases hpage
  | set settings => rfl
  | settings => rfl

theorem act_tools (s : Session) (name : Text) (action : Action) :
    (s.act name action).1.tools = s.tools := by
  cases action with
  | create page settings =>
    rcases page with _ | ⟨_ | ⟨c, cs⟩, read⟩
    · rfl
    · rfl
    · exact minify_tools (s.put name _) name _ (some (c :: cs, read))
  | handle event => exact record_tools ..
  | doctype text => exact record_tools ..
  | characterReference ref => exact record_tools ..
  | entityReference ref => exact record_tools ..
  | close => rfl
  | minify page settings =>
    cases settings with
    | some settings => rfl
    | none => exact minify_tools ..
  | set settings => rfl
  | settings => rfl

theorem calls_cons_of_page {s : Session} {name : Text} {action : Action} {events : List Event}
    (h : action.pageEvents? = some events) (rest : List (Text × Action)) :
    s.calls ((name, action) :: rest) =
      ⟨s.optionsFor name action, events, (s.act name action).2.answer⟩
        :: (s.act name action).1.calls rest := by
  rw [calls, h]

theorem calls_cons_of_no_page {s : Session} {name : Text} {action : Action}
    (h : action.pageEvents? = none) (rest : List (Text × Action)) :
    s.calls ((name, action) :: rest) = (s.act name action).1.calls rest := by
  rw [calls, h]

/-- **The answers to the pages of a session.**  If all pages succeed, every answer is the text of
the results that were there at the start, and the texts that the pages up to this one have on their
own. -/
theorem calls_answer {s : Session} {acts : List (Text × Action)} (htool : s.tools.script = true)
    (hquiet : ∀ a ∈ acts, a.2.feedsEnd = false)
    (hok : ∀ call ∈ s.calls acts, call.answer.isOk = true) {n : Nat} {call : Call}
    (hcall : (s.calls acts)[n]? = some call) :
    call.answer = .ok (.text (Chunk.page s.results ++
      ((s.calls acts).take (n + 1)).flatMap (Call.text s.tools))) := by
  induction acts generalizing s n with
  | nil => simp [calls] at hcall
  | cons a rest ih =>
    obtain ⟨name, action⟩ := a
    have htools := act_tools s name action
    have hquiet' : ∀ a ∈ rest, a.2.feedsEnd = false :=
      fun a ha => hquiet a (List.mem_cons_of_mem _ ha)
    cases hpage : action.pageEvents? with
    | none =>
      have hresults := act_quiet hpage (hquiet _ List.mem_cons_self) s name
      rw [calls_cons_of_no_page hpage] at hok hcall ⊢
      rw [← hresults, ← htools]
      exact ih (by rw [htools, htool]) hquiet' hok hcall
    | some events =>
      obtain ⟨hresults, hanswer⟩ := act_of_page htool name hpage
      rw [calls_cons_of_page hpage] at hok hcall ⊢
      have hfirst := hok _ List.mem_cons_self
      cases n with
      | zero =>
        -- the first page: it has an answer, and the only one there is
        rw [List.getElem?_cons_zero, Option.some.injEq] at hcall
        subst hcall
        rw [hanswer] at hfirst ⊢
        split at hfirst
        · cases hfirst
        · simp [Call.text]
      | succ n =>
        -- a later page: the first one is part of the results it finds
        rw [List.getElem?_cons_succ] at hcall
        rw [ih (by rw [htools, htool]) hquiet'
          (fun c hc => hok c (List.mem_cons_of_mem _ hc)) hcall, hresults, htools, page_append,
          List.take_succ_cons, List.flatMap_cons, List.append_assoc]
        rfl

/-- **A session is a ledger of its pages.**  With a script compactor installed, a page of given
events adds the same chunks to the results of any session, and fails with the same fault or is
answered with the same text behind that of the results, whatever the results are and whatever state
its minifier is in; the text is the answer in a session whose results are empty.  So, in a session
that starts without results and in which all pages succeed, every page is answered with the texts of
all pages up to it, joined. -/
theorem minify_history :
    (∀ (s s₀ : Session) (name name₀ : Text) (m m₀ : Minifier) (c c₀ : Char) (cs cs₀ : Text)
        (events : List Event), s.tools.script = true → s₀.tools = s.tools → s₀.results = [] →
        m₀.settings.options = m.settings.options →
        (s.minify name m (some (c :: cs, .ok events))).1.results =
            s.results ++ (s₀.minify name₀ m₀ (some (c₀ :: cs₀, .ok events))).1.results ∧
          ((s₀.minify name₀ m₀ (some (c₀ :: cs₀, .ok events))).2.answer =
                .ok (.text (loneText s.tools m.settings.options events)) ∧
              (s.minify name m (some (c :: cs, .ok events))).2.answer =
                .ok (.text (Chunk.page s.results ++
                  loneText s.tools m.settings.options events)) ∨
            ∃ fault,
              (s₀.minify name₀ m₀ (some (c₀ :: cs₀, .ok events))).2.answer = .error fault ∧
                (s.minify name m (some (c :: cs, .ok events))).2.answer = .error fault)) ∧
      ∀ (s : Session) (acts : List (Text × Action)), s.tools.script = true → s.results = [] →
        (∀ a ∈ acts, a.2.feedsEnd = false) →
        (∀ call ∈ s.calls acts, call.answer.isOk = true) →
        ∀ (n : Nat) (call : Call), (s.calls acts)[n]? = some call →
          call.answer
            = .ok (.text (((s.calls acts).take (n + 1)).flatMap (Call.text s.tools))) := by
  constructor
  · intro s s₀ name name₀ m m₀ c c₀ cs cs₀ events htool htools hfresh hoptions
    have htool₀ : s₀.tools.script = true := by rw [htools, htool]
    rw [results_minify htool, results_minify htool₀, answer_minify htool, answer_minify htool₀,
      hfresh, htools, hoptions]
    refine ⟨rfl, ?_⟩
    cases (Page.minifyEvents s.tools m.settings.options { replies := [] } events).fault with
    | none => exact .inl ⟨rfl, rfl⟩
    | some fault => exact .inr ⟨fault, rfl, rfl⟩
  · intro s acts htool hfresh hquiet hok n call hcall
    rw [calls_answer htool hquiet hok hcall, hfresh]
    rfl

/-- Two minifiers minify a page each; the second answer holds the first.  In another session the
page adds the same chunks behind those that are there. -/
theorem minify_history_twice :
    let page : List Event := [.start "p" [], .data (some " a "), .finish "p"]
    let acts : List (Text × Action) :=
      [("m", .create none []), ("m", .minify (some ("x", .ok page)) none),
        ("n", .create (some ("x", .ok page)) [])]
    (({} : Session).calls acts)[1]?.map Call.answer
        = some (.ok (.text "<!DOCTYPE html><p>a</p><!DOCTYPE html><p>a</p>")) ∧
      (({ results := [" b "] } : Session).minify "m" {} (some ("x", .ok page))).1.results =
        [(" b " : Text)] ++ (({} : Session).minify "n" {} (some ("y", .ok page))).1.results := by
  intro page acts
  have hok : ∀ call ∈ ({} : Session).calls acts, call.answer.isOk = true := by decide +kernel
  have hlength : 1 < (({} : Session).calls acts).length := by decide +kernel
  have htext : ((({} : Session).calls acts).take 2).flatMap (Call.text {})
      = "<!DOCTYPE html><p>a</p><!DOCTYPE html><p>a</p>".toList := by decide +kernel
  refine ⟨?_, (minify_history.1 { results := [" b "] } {} "m" "n" {} {} 'x' 'y' [] [] page
    rfl rfl rfl rfl).1⟩
  rw [List.getElem?_eq_getElem hlength, Option.map_some,
    minify_history.2 {} acts rfl rfl (by decide +kernel) hok 1 _
      (List.getElem?_eq_getElem hlength), htext]

end Session

end PagePress

import PagePress.Proofs.Faults
import PagePress.Proofs.Handover
import PagePress.Proofs.Ledger

/-!
# Minifiers side by side

Minifiers share lists until they have lists of their own.  This file shows that from then on they
are strangers, as long as they need no compile service: whatever is asked of one of them makes no
difference to another, but for the order in which their chunks come to stand in the results.

* `Minifier.Owns` says that a minifier has lists of its own.  Every page makes it so
  (`owns_minify`), and nothing but a new minifier of the same name undoes it (`owns_act`).
* `act_handle` says all that an event does to a session.
* `Session.Agree` says that two sessions look the same to a minifier.  An event of another minifier
  makes no difference to that (`Agree.skip`), and an event of its own makes the same one in both
  sessions (`Agree.both`).  `Agree.play` is the induction over many calls.
* `Interleaves` is the order of the results, and `play_isolated` puts all together.
-/

set_option autoImplicit false

namespace PagePress

/-! ## Interleaving -/

/-- The third list is made of the other two, each of them in its order. -/
inductive Interleaves {α : Type} : List α → List α → List α → Prop
  | nil : Interleaves [] [] []
  | left {x : α} {xs ys zs : List α} : Interleaves xs ys zs → Interleaves (x :: xs) ys (x :: zs)
  | right {y : α} {xs ys zs : List α} : Interleaves xs ys zs → Interleaves xs (y :: ys) (y :: zs)

theorem Interleaves.append_left {α : Type} {xs ys zs : List α} (h : Interleaves xs ys zs)
    (ws : List α) : Interleaves (ws ++ xs) ys (ws ++ zs) := by
  induction ws with
  | nil => exact h
  | cons w ws ih => exact ih.left

theorem Interleaves.append_right {α : Type} {xs ys zs : List α} (h : Interleaves xs ys zs)
    (ws : List α) : Interleaves xs (ws ++ ys) (ws ++ zs) := by
  induction ws with
  | nil => exact h
  | cons w ws ih => exact ih.right

/-! ## Lists of one's own -/

/-- The lists of a minifier are its own. -/
structure Minifier.Owns (m : Minifier) : Prop where
  chunks : m.ownsChunks = true
  kept : m.ownsKept = true

/-- A minifier has lists of its own, and compacts nothing. -/
structure Minifier.Independent (m : Minifier) : Prop extends Minifier.Owns m where
  scripts : m.settings.options.minifyJS = false
  styles : m.settings.options.minifyCSS = false

namespace Session

variable {s s' : Session} {name other : Text}

theorem lookup_filter_ne (h : other ≠ name) (table : List (Text × Minifier)) :
    (table.filter (·.1 != name)).lookup other = table.lookup other := by
  induction table with
  | nil => rfl
  | cons entry table ih =>
    obtain ⟨key, m⟩ := entry
    by_cases hkey : key = name
    · subst hkey
      rw [List.filter_cons_of_neg (by simp), ih, List.lookup_cons, beq_false_of_ne h]
    · rw [List.filter_cons_of_pos (by simpa using hkey), List.lookup_cons, List.lookup_cons, ih]

theorem get_put_of_ne (h : other ≠ name) (s : Session) (m : Minifier) :
    (s.put name m).get other = s.get other := by
  rw [get, put, List.lookup_cons, beq_false_of_ne h]
  exact congrArg (Option.getD · {}) (lookup_filter_ne h s.minifiers)

/-- A minifier that is put into a session takes no lists away. -/
theorem owns_put {m : Minifier} (h : (s.get name).Owns) (hm : other = name → m.Owns) :
    ((s.put other m).get name).Owns := by
  by_cases hname : other = name
  · rw [hname, get_put_self]
    exact hm hname
  · rw [get_put_of_ne (Ne.symm hname)]
    exact h

/-- A page gives its minifier lists of its own, whether it comes through or not. -/
theorem owns_minify (s : Session) (name : Text) (m : Minifier) (c : Char) (cs : Text)
    (read : Except Fault (List Event)) :
    ((s.minify name m (some (c :: cs, read))).1.get name).Owns := by
  show ((Session.put _ name _).get name).Owns
  rw [get_put_self]
  exact ⟨rfl, rfl⟩

theorem owns_minify_of_owns (h : (s.get name).Owns) (other : Text) (m : Minifier)
    (page : Option (Text × Except Fault (List Event))) :
    ((s.minify other m page).1.get name).Owns := by
  rcases page with _ | ⟨_ | ⟨c, cs⟩, read⟩
  · exact h
  · exact h
  · exact owns_put h fun _ => ⟨rfl, rfl⟩

theorem owns_record {m : Minifier} (h : (s.get name).Owns) (hm : other = name → m.Owns)
    (step : Step) : ((s.record other m step).get name).Owns := by
  have hlater : other = name → ({ m with
      run := step.run, ownsChunks := m.ownsChunks || step.shelved.isSome } : Minifier).Owns :=
    fun heq => ⟨by simp [(hm heq).chunks], (hm heq).kept⟩
  obtain ⟨settings, run, chunks, kept⟩ := m
  cases chunks <;> cases kept <;> exact owns_put h hlater

/-- **A minifier keeps its lists**, whatever is asked of whom, until another one takes its name. -/
theorem owns_act (h : (s.get name).Owns) {action : Action}
    (hnew : ∀ page settings, action = .create page settings → other ≠ name) :
    ((s.act other action).1.get name).Owns := by
  have hget : other = name → (s.get other).Owns := fun heq => heq ▸ h
  cases action with
  | create page settings =>
    have hne := hnew page settings rfl
    have hput : ((s.put other { settings := (prepare s.tools settings).1 }).get name).Owns :=
      owns_put h fun heq => absurd heq hne
    rcases page with _ | ⟨_ | ⟨c, cs⟩, read⟩
    · exact hput
    · exact hput
    · exact owns_minify_of_owns hput other _ (some (c :: cs, read))
  | handle event => exact owns_record h hget _
  | doctype text => exact owns_record h hget _
  | characterReference ref => exact owns_record h hget _
  | entityReference ref => exact owns_record h hget _
  | close => exact h
  | minify page settings =>
    cases settings with
    | some settings => exact h
    | none => exact owns_minify_of_owns h other _ page
  | set settings =>
    exact owns_put h fun heq => ⟨(hget heq).chunks, (hget heq).kept⟩
  | settings => exact h

/-! ## One event -/

/-- What an event gives to the minifier of a name, in a session in which its lists are its own. -/
def stepOf (s : Session) (name : Text) (e : Event) : Step :=
  (s.get name).run.step s.tools (s.get name).settings.options s.service e

/-- What a minifier records in lists of its own is recorded nowhere else. -/
theorem record_of_owns {m : Minifier} (h : m.Owns) (s : Session) (name : Text) (step : Step) :
    s.record name m step =
      ({ s with service := step.service, results := s.results ++ step.emitted } : Session).put name
        { m with run := step.run } := by
  obtain ⟨hchunks, hkept⟩ := h
  obtain ⟨settings, run, _, _⟩ := m
  subst hchunks hkept
  rfl

theorem view_of_owns {m : Minifier} (h : m.Owns) (s : Session) : s.view m = m.run := by
  rw [view, h.chunks, h.kept]
  rfl

end Session

/-- Where nothing is compacted, no event asks the compile service. -/
theorem Run.step_service_uncompacted {tools : Tools} {o : Options} {r : Run} {s : Service}
    (hjs : o.minifyJS = false) (hcss : o.minifyCSS = false) (e : Event) :
    (r.step tools o s e).service = s := by
  cases e with
  | finish tag => exact (finish_service tag).trans (by rw [closingText_uncompacted hjs hcss])
  | start tag attrs => rfl
  | data t => rfl
  | comment t => rfl

namespace Session

variable {s s' : Session} {name other : Text}

/-- **All that an event does to a session** in which its minifier is independent: the run of the
minifier goes on, and the results grow. -/
theorem act_handle (h : (s.get name).Independent) (e : Event) :
    s.act name (.handle e) =
      (({ s with results := s.results ++ (s.stepOf name e).emitted } : Session).put name
          { s.get name with run := (s.stepOf name e).run },
        report (s.stepOf name e)) := by
  have hservice : (s.stepOf name e).service = s.service :=
    Run.step_service_uncompacted h.scripts h.styles e
  have hstep : (s.view (s.get name)).step s.tools (s.get name).settings.options s.service e
      = s.stepOf name e := by rw [view_of_owns h.toOwns, stepOf]
  rw [act]
  dsimp only
  rw [hstep, record_of_owns h.toOwns, hservice]

/-- A minifier stays independent. -/
theorem independent_act_handle (h : (s.get name).Independent) (hother : (s.get other).Independent)
    (e : Event) : ((s.act other (.handle e)).1.get name).Independent := by
  rw [act_handle hother]
  by_cases hname : name = other
  · rw [hname, get_put_self]
    exact ⟨⟨hother.chunks, hother.kept⟩, hother.scripts, hother.styles⟩
  · rw [get_put_of_ne hname]
    exact h

/-! ## Sessions that look the same to a minifier -/

/-- Two sessions look the same to the minifier of a name. -/
structure Agree (name : Text) (s s' : Session) : Prop where
  tools : s'.tools = s.tools
  service : s'.service = s.service
  minifier : s'.get name = s.get name

/-- An event of another minifier makes no difference. -/
theorem Agree.skip (h : Agree name s s') (hne : name ≠ other) (hother : (s.get other).Independent)
    (e : Event) : Agree name (s.act other (.handle e)).1 s' := by
  rw [act_handle hother]
  refine ⟨h.tools, h.service, ?_⟩
  rw [get_put_of_ne hne]
  exact h.minifier

/-- An event of the minifier itself makes the same difference in both sessions. -/
theorem Agree.both (h : Agree name s s') (hname : (s.get name).Independent) (e : Event) :
    Agree name (s.act name (.handle e)).1 (s'.act name (.handle e)).1 ∧
      (s'.act name (.handle e)).2 = (s.act name (.handle e)).2 := by
  have hname' : (s'.get name).Independent := h.minifier ▸ hname
  have hstep : s'.stepOf name e = s.stepOf name e := by
    rw [stepOf, stepOf, h.tools, h.service, h.minifier]
  rw [act_handle hname, act_handle hname', hstep, h.minifier]
  refine ⟨⟨h.tools, h.service, ?_⟩, rfl⟩
  rw [get_put_self, get_put_self]

/-! ## Many events -/

/-- Events, each for the minifier of a name, as actions. -/
def handles (calls : List (Text × Event)) : List (Text × Action) :=
  calls.map fun call => (call.1, .handle call.2)

/-- What the calls of a name give, of all that calls give. -/
def outcomesOf (name : Text) : List (Text × Event) → List (Report × Run) → List (Report × Run)
  | (caller, _) :: calls, out :: outs =>
    if caller = name then out :: outcomesOf name calls outs else outcomesOf name calls outs
  | _, _ => []

/-- All chunks that are sent on. -/
def addedBy (outs : List (Report × Run)) : List Text := outs.flatMap (·.1.added)

theorem play_handles_cons (s : Session) (name : Text) (e : Event) (calls : List (Text × Event)) :
    s.play (handles ((name, e) :: calls)) =
      (((s.act name (.handle e)).2,
          (s.act name (.handle e)).1.view ((s.act name (.handle e)).1.get name)) ::
          ((s.act name (.handle e)).1.play (handles calls)).1,
        ((s.act name (.handle e)).1.play (handles calls)).2) := rfl

/-- **A minifier does not notice the others**: the calls of all are the same to it as its own calls
alone. -/
theorem Agree.play {calls : List (Text × Event)} (h : Agree name s s')
    (hcalls : ∀ call ∈ calls, (s.get call.1).Independent) :
    Agree name (s.play (handles calls)).2
        (s'.play (handles (calls.filter (·.1 = name)))).2 ∧
      outcomesOf name calls (s.play (handles calls)).1
        = (s'.play (handles (calls.filter (·.1 = name)))).1 := by
  induction calls generalizing s s' with
  | nil => exact ⟨h, rfl⟩
  | cons call calls ih =>
    obtain ⟨caller, e⟩ := call
    have hcaller : (s.get caller).Independent := hcalls _ List.mem_cons_self
    have hrest : ∀ call ∈ calls, ((s.act caller (.handle e)).1.get call.1).Independent :=
      fun call hcall =>
        independent_act_handle (hcalls call (List.mem_cons_of_mem _ hcall)) hcaller e
    rw [play_handles_cons, outcomesOf]
    by_cases hname : caller = name
    · subst hname
      obtain ⟨hboth, hreport⟩ := h.both hcaller e
      obtain ⟨hlast, houts⟩ := ih hboth hrest
      -- both sessions show the run of the minifier, as its lists are its own
      have howns := independent_act_handle hcaller hcaller e
      have hview : (s'.act caller (.handle e)).1.view ((s'.act caller (.handle e)).1.get caller)
          = (s.act caller (.handle e)).1.view ((s.act caller (.handle e)).1.get caller) := by
        rw [hboth.minifier, view_of_owns howns.toOwns, view_of_owns howns.toOwns]
      rw [List.filter_cons_of_pos (by simp), play_handles_cons, if_pos rfl, hreport, hview, houts]
      exact ⟨hlast, rfl⟩
    · obtain ⟨hlast, houts⟩ := ih (h.skip (Ne.symm hname) hcaller e) hrest
      rw [List.filter_cons_of_neg (by simpa using hname), if_neg hname]
      exact ⟨hlast, houts⟩

theorem play_results (s : Session) (calls : List (Text × Event)) :
    (s.play (handles calls)).2.results = s.results ++ addedBy (s.play (handles calls)).1 := by
  induction calls generalizing s with
  | nil => exact (List.append_nil _).symm
  | cons call calls ih =>
    obtain ⟨caller, e⟩ := call
    have hresults : (s.act caller (.handle e)).1.results
        = s.results ++ (s.act caller (.handle e)).2.added := record_results ..
    rw [play_handles_cons, addedBy, List.flatMap_cons, ← addedBy, ih, hresults, List.append_assoc]

theorem length_play (s : Session) (acts : List (Text × Action)) :
    (s.play acts).1.length = acts.length := by
  induction acts generalizing s with
  | nil => rfl
  | cons a rest ih => exact congrArg (· + 1) (ih _)

/-- What the calls of two names send on comes in the order of the calls. -/
theorem interleaves_outcomesOf {a b : Text} (hne : a ≠ b) {calls : List (Text × Event)}
    (hcalls : ∀ call ∈ calls, call.1 = a ∨ call.1 = b) {outs : List (Report × Run)}
    (hlength : outs.length = calls.length) :
    Interleaves (addedBy (outcomesOf a calls outs)) (addedBy (outcomesOf b calls outs))
      (addedBy outs) := by
  induction calls generalizing outs with
  | nil =>
    rw [List.length_nil, List.length_eq_zero_iff] at hlength
    subst hlength
    exact .nil
  | cons call calls ih =>
    cases outs with
    | nil => cases hlength
    | cons out outs =>
      obtain ⟨caller, e⟩ := call
      have hrest := ih (fun call hcall => hcalls call (List.mem_cons_of_mem _ hcall))
        (Nat.succ.inj hlength)
      rw [outcomesOf, outcomesOf]
      rcases hcalls _ List.mem_cons_self with rfl | rfl
      · rw [if_pos rfl, if_neg hne]
        exact hrest.append_left _
      · rw [if_neg hne.symm, if_pos rfl]
        exact hrest.append_right _

/-- **Minifiers do not interfere.**  A page that is not empty gives its minifier lists of its own,
and it keeps them until another minifier takes its name.  If two minifiers have lists of their own
and compact nothing, then any calls of the two, in any order, are to each of them as its own calls
alone: it is the same afterwards, and each of its calls is answered the same, sends on the same and
leaves its run the same.  What is sent on to the results in all is an interleaving of what the calls
of each alone send on. -/
theorem play_isolated :
    (∀ (s : Session) (name : Text) (m : Minifier) (c : Char) (cs : Text)
        (read : Except Fault (List Event)),
        ((s.minify name m (some (c :: cs, read))).1.get name).Owns) ∧
      (∀ (s : Session) (name other : Text) (action : Action), (s.get name).Owns →
        (∀ page settings, action = .create page settings → other ≠ name) →
        ((s.act other action).1.get name).Owns) ∧
      ∀ (s : Session) (a b : Text) (calls : List (Text × Event)), a ≠ b →
        (s.get a).Independent → (s.get b).Independent →
        (∀ call ∈ calls, call.1 = a ∨ call.1 = b) →
        let whole := s.play (handles calls)
        let alone (name : Text) := s.play (handles (calls.filter (·.1 = name)))
        (∀ name, name = a ∨ name = b →
          whole.2.get name = (alone name).2.get name ∧
            outcomesOf name calls whole.1 = (alone name).1) ∧
          ∃ added addedA addedB, whole.2.results = s.results ++ added ∧
            (alone a).2.results = s.results ++ addedA ∧
            (alone b).2.results = s.results ++ addedB ∧ Interleaves addedA addedB added := by
  refine ⟨owns_minify, fun s name other action h hnew => owns_act h hnew, ?_⟩
  intro s a b calls hne ha hb hcalls whole alone
  have hcallers : ∀ call ∈ calls, (s.get call.1).Independent := by
    intro call hcall
    rcases hcalls call hcall with h | h
    · exact h ▸ ha
    · exact h ▸ hb
  have hsame (name : Text) : whole.2.get name = (alone name).2.get name ∧
      outcomesOf name calls whole.1 = (alone name).1 := by
    have hstart : Agree name s s := ⟨rfl, rfl, rfl⟩
    obtain ⟨hagree, houts⟩ := hstart.play hcallers
    exact ⟨hagree.minifier.symm, houts⟩
  refine ⟨fun name _ => hsame name, addedBy whole.1, addedBy (alone a).1, addedBy (alone b).1,
    play_results s calls, play_results s _, play_results s _, ?_⟩
  rw [← (hsame a).2, ← (hsame b).2]
  refine interleaves_outcomesOf hne hcalls ?_
  rw [length_play, handles, List.length_map]

/-- Two minifiers that were made with a page each, and a paragraph of the one around an element of
the other. -/
theorem play_isolated_nested :
    let settings : Settings := [("minifyJS", .flag false), ("minifyCSS", .flag false)]
    let page : Option (Text × Except Fault (List Event)) := some (['x'], .ok [])
    let first := (({} : Session).act "a" (.create page settings)).1
    let s := (first.act "b" (.create page settings)).1
    let calls : List (Text × Event) := [("a", .start "p" []), ("b", .start "pre" []),
      ("a", .data (some " c ")), ("b", .data (some " d ")), ("b", .finish "pre"),
      ("a", .finish "p")]
    let own : List (Text × Event) := [("a", .start "p" []), ("a", .data (some " c ")),
      ("a", .finish "p")]
    (s.get "a").Independent ∧ (s.get "b").Independent ∧
      (s.play (handles calls)).2.get "a" = (s.play (handles own)).2.get "a" := by
  intro settings page first s calls own
  obtain ⟨howns, hkeeps, hisolated⟩ := play_isolated
  have ha : (s.get "a").Independent :=
    ⟨hkeeps first "a" "b" _ (howns _ "a" _ 'x' [] (.ok [])) (fun _ _ _ => by decide),
      by decide +kernel, by decide +kernel⟩
  have hb : (s.get "b").Independent :=
    ⟨howns _ "b" _ 'x' [] (.ok []), by decide +kernel, by decide +kernel⟩
  exact ⟨ha, hb, ((hisolated s "a" "b" calls (by decide) ha hb (by decide)).1 "a" (.inl rfl)).1⟩

end Session

end PagePress

import PagePress.Proofs.Course

/-!
# Where a page fails

Reading a page can go wrong in three ways: an attribute is redundant or not by the other attributes
of its tag, which cannot be read; a compactor fails; or an element is to be removed whose start tag
is gone.  This file is about the first, with the other two ruled out by the options.

* `siblingRules` are the attributes that depend on others, and `fragment_eq_error_iff` says that
  just these have no text.
* `step_fault_uncompacted` says that no other event has a fault, and `feed_fault_of_step` that a run
  has the first one there is.
* `feed_append` and `feed_stops` cut a run in two: at any event, and behind the one with a fault.
* `minify_error_iff` puts this together.
-/

set_option autoImplicit false

namespace PagePress

open Transcript

/-! ## Attributes that ask for others -/

namespace Attribute

/-- Tags and names of the attributes that are redundant or not by what else the tag has. -/
def siblingRules : List (Text × Text) := [("script", "charset"), ("a", "name")]

/-- Whether it takes the other attributes of the tag to say if this one is redundant. -/
def asksSiblings (tag : Text) (a : Attribute) : Bool := siblingRules.contains (tag, a.name.lower)

/-- Whether a redundancy depends on the other attributes of a tag. -/
def Redundancy.asks : Redundancy → Bool
  | .never => false
  | .always => false
  | .without _ => true
  | .beside _ => true

/-- The attributes that are redundant in every case ask for no other, so that these two rules are
all there is to it. -/
theorem asks_redundancy (tag name value : Text) :
    (redundancy tag name value).asks = siblingRules.contains (tag, name) := by
  rw [redundancy]
  by_cases hdefault : defaults.contains (tag, name, comparable value) = true
  · rw [if_pos hdefault]
    simp only [defaults, List.contains_iff_mem, List.mem_cons, Prod.mk.injEq, List.not_mem_nil,
      or_false] at hdefault
    rcases hdefault with ⟨rfl, rfl, -⟩ | ⟨rfl, rfl, -⟩ | ⟨rfl, rfl, -⟩ | ⟨rfl, rfl, -⟩ <;> rfl
  · rw [if_neg hdefault]
    have hrules : siblingRules.contains (tag, name) =
        (tag == "script" && name == "charset" || tag == "a" && name == "name") := by
      rw [Bool.eq_iff_iff]
      simp [siblingRules]
    rw [hrules]
    cases hscript : tag == ("script" : Text) && name == ("charset" : Text) <;>
      cases ha : tag == ("a" : Text) && name == ("name" : Text) <;> rfl

variable {o : Options} {tag : Text}

theorem isSuperfluous_eq_error_iff {name : Text} (value : Text) {fault : Fault} :
    isSuperfluous o tag name value = .error fault ↔
      fault = .siblingsUnreadable ∧ o.removeRedundantAttributes = true ∧
        siblingRules.contains (tag, name) = true := by
  rw [← asks_redundancy tag name value, isSuperfluous]
  cases o.removeRedundantAttributes <;> cases redundancy tag name value <;>
    simp [Redundancy.asks, eq_comm]

/-- **When an attribute has no text.** -/
theorem fragment_eq_error_iff {a : Attribute} {fault : Fault} :
    a.fragment o tag = .error fault ↔
      fault = .siblingsUnreadable ∧ o.removeRedundantAttributes = true ∧
        a.asksSiblings tag = true := by
  rw [asksSiblings, ← isSuperfluous_eq_error_iff (a.value.getD []), fragment]
  cases isSuperfluous o tag a.name.lower (a.value.getD []) with
  | error fault' => simp
  | ok drop => cases drop <;> simp

end Attribute

/-- Start tags with an attribute that asks for others. -/
def Event.asksSiblings : Event → Bool
  | .start tag attrs => attrs.any (·.asksSiblings tag.lower)
  | _ => false

variable {tools : Tools} {o : Options} {past : List Event} {r : Run} {s : Service}

theorem fragments_fault (tag : Text) (attrs : Attributes) :
    (Run.fragments o tag attrs).2 =
      if o.removeRedundantAttributes && attrs.any (·.asksSiblings tag) then
        some .siblingsUnreadable
      else none := by
  induction attrs with
  | nil => simp [Run.fragments]
  | cons a rest ih =>
    rw [Run.fragments, List.any_cons]
    cases ha : a.fragment o tag with
    | error fault =>
      obtain ⟨rfl, hon, hasks⟩ := Attribute.fragment_eq_error_iff.1 ha
      simp [hon, hasks]
    | ok text =>
      show (Run.fragments o tag rest).2 = _
      rw [ih]
      cases hasks : a.asksSiblings tag with
      | false => rw [Bool.false_or]
      | true =>
        have hoff : o.removeRedundantAttributes = false := by
          rw [← Bool.not_eq_true]
          intro hon
          rw [Attribute.fragment_eq_error_iff.2 ⟨rfl, hon, hasks⟩] at ha
          cases ha
        rw [hoff, Bool.false_and, Bool.false_and]

theorem Event.fault?_eq (e : Event) :
    e.fault? o =
      if o.removeRedundantAttributes && e.asksSiblings then some .siblingsUnreadable else none := by
  cases e with
  | start tag attrs => exact fragments_fault tag.lower attrs
  | finish tag => simp [Event.fault?, Event.asksSiblings]
  | data t => simp [Event.fault?, Event.asksSiblings]
  | comment t => simp [Event.fault?, Event.asksSiblings]

theorem findSome?_fault (events : List Event) :
    events.findSome? (·.fault? o) =
      if o.removeRedundantAttributes && events.any (·.asksSiblings) then
        some .siblingsUnreadable
      else none := by
  induction events with
  | nil => simp
  | cons e es ih =>
    rw [List.findSome?_cons, Event.fault?_eq, ih, List.any_cons]
    cases o.removeRedundantAttributes <;> cases e.asksSiblings <;> simp

/-! ## Nothing is compacted -/

/-- The text of an element of the tag, in raw text without its wrappers. -/
def Wrapper.unwrapIn (o : Options) (tag t : Text) : Text :=
  match RawKind.ofTag? tag with
  | some kind => unwrap o kind t
  | none => t

namespace Run

/-- Where nothing is compacted, an end tag finds the text of its element without a fault. -/
theorem closingText_uncompacted (hjs : o.minifyJS = false) (hcss : o.minifyCSS = false) :
    r.closingText tools o s = (.ok (Wrapper.unwrapIn o r.tag r.pending), s) := by
  rw [closingText, Wrapper.unwrapIn]
  cases RawKind.ofTag? r.tag with
  | none => rfl
  | some kind =>
    cases kind with
    | script => simp [hjs]
    | style => simp [hcss]

/-- Where nothing is compacted and no element is removed, an event has a fault only by itself. -/
theorem step_fault_uncompacted (hempty : o.removeEmptyElements = false)
    (hjs : o.minifyJS = false) (hcss : o.minifyCSS = false) (e : Event) :
    (r.step tools o s e).fault = e.fault? o := by
  cases e with
  | start tag attrs => exact start_fault tag attrs
  | finish tag =>
    rw [step, finish_of_text hempty (closingText_uncompacted hjs hcss)]
    split <;> rfl
  | data t => rfl
  | comment t => rfl

/-! ## The first fault -/

/-- If events have a fault only by themselves, the fault of a run is that of the first event with
one. -/
theorem feed_fault_of_step {events : List Event}
    (hstep : ∀ r s e, (Run.step tools o r s e).fault = e.fault? o) :
    (r.feed tools o s events).fault = events.findSome? (·.fault? o) := by
  induction events generalizing r s with
  | nil => rfl
  | cons e es ih =>
    rw [List.findSome?_cons]
    cases he : e.fault? o with
    | some fault =>
      rw [feed_cons_of_fault ((hstep r s e).trans he)]
      exact (hstep r s e).trans he
    | none =>
      rw [feed_cons_of_no_fault ((hstep r s e).trans he)]
      exact ih

/-- Events without a fault are handled before those that follow them. -/
theorem feed_append {before : List Event} (hok : (r.feed tools o s before).fault = none)
    (after : List Event) :
    r.feed tools o s (before ++ after) =
      { (r.feed tools o s before).run.feed tools o (r.feed tools o s before).service after with
        emitted := (r.feed tools o s before).emitted ++
          ((r.feed tools o s before).run.feed tools o (r.feed tools o s before).service
            after).emitted } := by
  induction before generalizing r s with
  | nil => rfl
  | cons e es ih =>
    obtain ⟨hfirst, hrest⟩ := feed_cons_fault_eq_none hok
    rw [List.cons_append, feed_cons_of_no_fault hfirst, feed_cons_of_no_fault hfirst, ih hrest,
      ← List.append_assoc]

/-- Nothing is handled after an event with a fault. -/
theorem feed_stops {before : List Event} {e : Event} {fault : Fault}
    (hok : (r.feed tools o s before).fault = none)
    (hfault : ((r.feed tools o s before).run.step tools o (r.feed tools o s before).service
      e).fault = some fault) (after : List Event) :
    r.feed tools o s (before ++ e :: after) = r.feed tools o s (before ++ [e]) := by
  rw [feed_append hok, feed_append hok, feed_cons_of_fault hfault, feed_cons_of_fault hfault]

end Run

/-! ## When a page fails -/

/-- The fault of a run in which nothing is compacted and no element is removed. -/
theorem feed_fault_uncompacted (tools : Tools) (r : Run) (s : Service)
    (hempty : o.removeEmptyElements = false) (hjs : o.minifyJS = false)
    (hcss : o.minifyCSS = false) (events : List Event) :
    (r.feed tools o s events).fault =
      if o.removeRedundantAttributes && events.any (·.asksSiblings) then
        some .siblingsUnreadable
      else none := by
  rw [← findSome?_fault]
  exact Run.feed_fault_of_step fun r s e => Run.step_fault_uncompacted hempty hjs hcss e

namespace Session

/-- A page whose events have a fault is answered with it. -/
theorem answer_of_fault {s : Session} {m : Minifier} {events : List Event} {fault : Fault}
    (h : ((Page.opening m.settings.options).feed s.tools m.settings.options s.service
      events).fault = some fault) (name : Text) (c : Char) (cs : Text) :
    (s.minify name m (some (c :: cs, .ok events))).2.answer = .error fault := by
  rw [minify_answer, Page.minifyEvents, flush_fault, h]

/-- Any other page is answered with a text. -/
theorem exists_answer_of_no_fault {s : Session} {m : Minifier} {events : List Event}
    (h : ((Page.opening m.settings.options).feed s.tools m.settings.options s.service
      events).fault = none) (name : Text) (c : Char) (cs : Text) :
    ∃ t, (s.minify name m (some (c :: cs, .ok events))).2.answer = .ok (.text t) := by
  rw [minify_answer, Page.minifyEvents, flush_fault, h]
  exact ⟨_, rfl⟩

/-- **When a page fails.**  Where no element is removed and nothing is compacted, a page fails
exactly if redundant attributes are removed and a start tag has an attribute that asks for others.
The first such start tag is where it fails: all events before it are handled without a fault, and
none behind it is.  Every other page is answered with a text. -/
theorem minify_error_iff (s : Session) (name : Text) (m : Minifier) (c : Char) (cs : Text)
    (events : List Event) (hempty : m.settings.options.removeEmptyElements = false)
    (hjs : m.settings.options.minifyJS = false) (hcss : m.settings.options.minifyCSS = false) :
    let o := m.settings.options
    let answer := (s.minify name m (some (c :: cs, .ok events))).2.answer
    let feed := (Page.opening o).feed s.tools o s.service
    ((∃ fault, answer = .error fault) ↔
        o.removeRedundantAttributes = true ∧ ∃ e ∈ events, e.asksSiblings = true) ∧
      (∀ before e after, events = before ++ e :: after → o.removeRedundantAttributes = true →
        e.asksSiblings = true → (∀ e' ∈ before, e'.asksSiblings = false) →
        answer = .error .siblingsUnreadable ∧ (feed before).fault = none ∧
          feed events = feed (before ++ [e])) ∧
      (¬ (o.removeRedundantAttributes = true ∧ ∃ e ∈ events, e.asksSiblings = true) →
        ∃ t, answer = .ok (.text t)) := by
  intro o answer feed
  have hasks : (o.removeRedundantAttributes = true ∧ ∃ e ∈ events, e.asksSiblings = true) ↔
      (o.removeRedundantAttributes && events.any (·.asksSiblings)) = true := by
    rw [Bool.and_eq_true, List.any_eq_true]
  have hfault := feed_fault_uncompacted s.tools (Page.opening o) s.service hempty hjs hcss events
  have herror (hcond : o.removeRedundantAttributes = true ∧ ∃ e ∈ events, e.asksSiblings = true) :
      answer = .error .siblingsUnreadable :=
    answer_of_fault (hfault.trans (if_pos (hasks.1 hcond))) name c cs
  have htext (hcond : ¬ (o.removeRedundantAttributes = true ∧
      ∃ e ∈ events, e.asksSiblings = true)) : ∃ t, answer = .ok (.text t) :=
    exists_answer_of_no_fault (hfault.trans (if_neg fun h => hcond (hasks.2 h))) name c cs
  refine ⟨⟨?_, fun hcond => ⟨_, herror hcond⟩⟩, fun before e after hsplit hon he hbefore => ?_,
    htext⟩
  · rintro ⟨fault, hanswer⟩
    by_cases hcond : o.removeRedundantAttributes = true ∧ ∃ e ∈ events, e.asksSiblings = true
    · exact hcond
    · obtain ⟨t, ht⟩ := htext hcond
      cases hanswer.symm.trans ht
  · have hok : (feed before).fault = none := by
      have hnone : before.any (·.asksSiblings) = false :=
        List.any_eq_false.2 (by simpa using hbefore)
      rw [feed_fault_uncompacted _ _ _ hempty hjs hcss, hnone, Bool.and_false]
      rfl
    have hstop : ((feed before).run.step s.tools o (feed before).service e).fault
        = some .siblingsUnreadable := by
      rw [Run.step_fault_uncompacted hempty hjs hcss, Event.fault?_eq, hon, he]
      rfl
    refine ⟨herror ⟨hon, e, by simp [hsplit], he⟩, hok, ?_⟩
    rw [hsplit]
    exact Run.feed_stops hok hstop after

/-- A script whose redundant attribute asks for no other, and an anchor whose name does. -/
theorem minify_error_iff_anchor :
    let settings := Settings.default.update
      [("minifyJS", .flag false), ("minifyCSS", .flag false)]
    let events : List Event :=
      [.start "SCRIPT" [⟨"src", some "f.js"⟩, ⟨"language", some "JavaScript"⟩], .finish "script",
        .data (some "a"), .start "A" [⟨"href", none⟩, ⟨"Name", some "b"⟩], .finish "a"]
    let answer := (({} : Session).minify "m" { settings := settings }
      (some (['x'], .ok events))).2.answer
    answer = .error .siblingsUnreadable := by
  intro settings events answer
  have hoptions : settings.options = { minifyJS := false, minifyCSS := false } := by
    decide +kernel
  have h := minify_error_iff {} "m" { settings := settings } 'x' [] events
    (by rw [hoptions]) (by rw [hoptions]) (by rw [hoptions])
  exact (h.2.1 [.start "SCRIPT" [⟨"src", some "f.js"⟩, ⟨"language", some "JavaScript"⟩],
    .finish "script", .data (some "a")] _ [.finish "a"] rfl (by rw [hoptions])
    (by decide +kernel) (by decide +kernel)).1

end Session

end PagePress

import PagePress.Proofs.OpeningMarks
import PagePress.Proofs.Pieces
import PagePress.Proofs.Preformatted

/-!
# Collapsed text

Where blanks are collapsed and no element keeps its own, a text is stripped and its runs of blanks
are collapsed before it is added to the pending text.  Several texts may be added one after the
other before an end tag writes them, and at the end the chunk is tidied by rules that know nothing
of this.  This file shows that what comes out is in one form all the same.

* `Text.Collapsed` is that form: no blank at the ends, and no two side by side.  A text that is
  stripped and collapsed has it (`collapsed_collapse_strip`), texts that have it have it together
  (`Collapsed.append`), and tidying leaves them as they are (`Collapsed.tidy_eq`).
* `Transcript.gathered` are the texts that wait for the next end tag, as they were before they were
  normalised; `text_eq_gathered` says that this tag writes them, stripped and collapsed one by one.
* `endText_collapsed` puts this together for every end tag that a page comes to.
-/

set_option autoImplicit false

namespace PagePress

/-! ## The form of a collapsed text -/

namespace Text

/-- No blank stands at the ends of the text, and no two blanks side by side. -/
structure Collapsed (t : Text) : Prop where
  /-- The text starts with no blank. -/
  head : ∀ c ∈ t.head?, isBlank c = false
  /-- The text ends with no blank. -/
  last : ∀ c ∈ t.getLast?, isBlank c = false
  /-- Of two neighbours one is no blank. -/
  apart : t.IsChain fun c d => isBlank c = false ∨ isBlank d = false

variable {t u : Text}

theorem collapsed_nil : Collapsed [] := ⟨nofun, nofun, List.isChain_nil⟩

/-- Texts in collapsed form meet without a blank. -/
theorem Collapsed.append (ht : Collapsed t) (hu : Collapsed u) : Collapsed (t ++ u) := by
  refine ⟨fun c hc => ?_, fun c hc => ?_, ?_⟩
  · rw [List.head?_append, Option.mem_def, Option.or_eq_some_iff] at hc
    rcases hc with hc | ⟨-, hc⟩
    · exact ht.head c hc
    · exact hu.head c hc
  · rw [List.getLast?_append, Option.mem_def, Option.or_eq_some_iff] at hc
    rcases hc with hc | ⟨-, hc⟩
    · exact hu.last c hc
    · exact ht.last c hc
  · rw [List.isChain_append]
    exact ⟨ht.apart, hu.apart, fun c hc _ _ => .inl (ht.last c hc)⟩

theorem collapsed_flatten {ts : List Text} (h : ∀ t ∈ ts, Collapsed t) : Collapsed ts.flatten := by
  induction ts with
  | nil => exact collapsed_nil
  | cons t ts ih =>
    rw [List.flatten_cons]
    exact (h t List.mem_cons_self).append (ih fun u hu => h u (List.mem_cons_of_mem _ hu))

/-- Tidying has nothing to do on a text in collapsed form. -/
theorem Collapsed.tidy_eq (h : Collapsed t) : Chunk.tidy t = t := by
  by_cases hnil : t = []
  · rw [hnil]
    rfl
  · have hframed : Framed t [] t [] := ⟨by simp, rfl, rfl, h.head, h.last⟩
    rw [hframed.tidy_eq hnil]
    simp

/-! ## Stripping and collapsing -/

/-- Behind a gap, which is written as one blank at most, no two blanks are left side by side. -/
theorem isChain_collapseAfter (g : Gap) (t : Text) :
    (collapseAfter g t).IsChain fun c d => isBlank c = false ∨ isBlank d = false := by
  induction t generalizing g with
  | nil =>
    cases g with
    | none => exact List.isChain_nil
    | single c => exact List.isChain_singleton c
    | wide => exact List.isChain_singleton ' '
  | cons c cs ih =>
    rw [collapseAfter]
    by_cases hc : isBlank c = true
    · rw [if_pos hc]
      exact ih (g.add c)
    · have hink : isBlank c = false := by simpa using hc
      have hrest : (c :: collapseAfter .none cs).IsChain
          fun c d => isBlank c = false ∨ isBlank d = false :=
        List.isChain_cons.2 ⟨fun _ _ => .inl hink, ih .none⟩
      rw [if_neg hc]
      cases g with
      | none => exact hrest
      | single d => exact List.isChain_cons.2 ⟨by simp [hink], hrest⟩
      | wide => exact List.isChain_cons.2 ⟨by simp [hink], hrest⟩

/-- A character that is no blank at the end of a text stays there when the text is collapsed. -/
theorem exists_collapseAfter_concat {c : Char} (hc : isBlank c = false) (g : Gap) (init : Text) :
    ∃ front, collapseAfter g (init ++ [c]) = front ++ [c] := by
  induction init generalizing g with
  | nil => exact ⟨g.text, by simp [collapseAfter, hc, Gap.text]⟩
  | cons d ds ih =>
    rw [List.cons_append, collapseAfter]
    by_cases hd : isBlank d = true
    · rw [if_pos hd]
      exact ih (g.add d)
    · obtain ⟨front, hfront⟩ := ih .none
      exact ⟨g.text ++ d :: front, by rw [if_neg hd, hfront]; simp⟩

/-- **A text that is stripped and collapsed is in collapsed form.** -/
theorem collapsed_collapse_strip (t : Text) : Collapsed (collapse (strip t)) := by
  obtain ⟨lead, trail, h⟩ := exists_framed t
  refine ⟨?_, ?_, isChain_collapseAfter .none _⟩
  · cases hbody : strip t with
    | nil => rintro d ⟨⟩
    | cons c cs =>
      have hc : isBlank c = false := h.head c (by rw [hbody]; rfl)
      rw [collapse, collapseAfter, hc]
      rintro d ⟨⟩
      exact hc
  · rcases List.eq_nil_or_concat (strip t) with hbody | ⟨init, c, hbody⟩
    · rw [hbody]
      rintro d ⟨⟩
    · rw [List.concat_eq_append] at hbody
      have hc : isBlank c = false := h.last c (by simp [hbody])
      obtain ⟨front, hfront⟩ := exists_collapseAfter_concat hc .none init
      rw [hbody, collapse, hfront, List.getLast?_concat]
      rintro d ⟨⟩
      exact hc

/-- Collapsing has nothing to do where no two blanks stand side by side. -/
theorem collapse_of_isChain (h : t.IsChain fun c d => isBlank c = false ∨ isBlank d = false) :
    collapse t = t := by
  induction t with
  | nil => rfl
  | cons c cs ih =>
    obtain ⟨hnext, hrest⟩ := List.isChain_cons.1 h
    by_cases hc : isBlank c = true
    · have hone : spaced [c] = [c] := by simp [spaced]
      have hink : ∀ d ∈ cs.head?, isBlank d = false := fun d hd =>
        (hnext d hd).resolve_left (by simp [hc])
      have hsplit : collapse ([c] ++ cs) = spaced [c] ++ collapse cs :=
        collapse_append_blank (by simpa using hc) hink
      rwa [hone, ih hrest] at hsplit
    · have hsplit : collapse ([c] ++ cs) = [c] ++ collapse cs :=
        collapse_append_ink (by simpa using hc) cs
      rwa [ih hrest] at hsplit

/-- **A text is left as it is exactly if it is in collapsed form.** -/
theorem collapse_strip_eq_self_iff : collapse (strip t) = t ↔ Collapsed t := by
  constructor
  · intro h
    rw [← h]
    exact collapsed_collapse_strip t
  · intro h
    rw [strip_eq_self_iff.2 ⟨h.head, h.last⟩, collapse_of_isChain h.apart]

/-- Blanks before a text are in no word. -/
theorem words_blank_append {gap : Text} (hgap : allBlank gap = true) (t : Text) :
    words (gap ++ t) = words t := by
  induction gap with
  | nil => rfl
  | cons c cs ih =>
    simp only [allBlank, List.all_cons, Bool.and_eq_true] at hgap
    rw [List.cons_append, words_cons_blank hgap.1, ih hgap.2]

/-- Blanks behind a text are in no word. -/
theorem words_append_blank {gap : Text} (hgap : allBlank gap = true) (t : Text) :
    words (t ++ gap) = words t := by
  by_cases hnil : gap = []
  · rw [hnil, List.append_nil]
  · have happend := words_append_gap hnil hgap t []
    rw [List.append_nil] at happend
    rw [happend]
    exact List.append_nil _

/-- Stripping a text keeps its words. -/
theorem words_strip (t : Text) : words (strip t) = words t := by
  obtain ⟨lead, trail, h⟩ := exists_framed t
  conv_rhs => rw [h.eq, words_append_blank h.trail, words_blank_append h.lead]

/-- A text keeps its words when it is stripped and collapsed. -/
theorem words_collapse_strip (t : Text) : words (collapse (strip t)) = words t := by
  have hcollapse := words_collapse [] (strip t) []
  rw [List.nil_append, List.nil_append, List.append_nil, List.append_nil] at hcollapse
  rw [hcollapse, words_strip]

end Text

/-! ## The texts that wait for an end tag -/

namespace Transcript

variable {tools : Tools} {o : Options} {past : List Event} {r : Run} {s : Service}

/-- The texts that wait for the next end tag, in order and as they were told.  A start tag gives
them up, and so does an end tag that is written.  An end tag that is implied keeps them, and so does
one whose element is removed because nothing but blanks wait for it. -/
def gathered (o : Options) : List Event → List Text
  | [] => []
  | .start _ _ :: _ => []
  | .finish tag :: past =>
    let isRemoved := o.removeEmptyElements && (gathered o past).all Text.allBlank &&
      tag == lastTag past && isRemovable tag
    if isRemoved || !writesEnd o tag then gathered o past else []
  | .data none :: past => gathered o past
  | .data (some t) :: past => gathered o past ++ [t]
  | .comment _ :: past => gathered o past

/-- No element of a class has a say in how a text is written if none was ever started. -/
theorem governs_of_no_start {keeps : Text → Bool} (hnil : keeps [] = false)
    (hpast : ∀ tag attrs, .start tag attrs ∈ past → keeps tag.lower = false) :
    governs keeps past = false := by
  have h : openOf keeps past = [] ∧ keeps (lastTag past) = false := by
    induction past with
    | nil => exact ⟨rfl, hnil⟩
    | cons e past ih =>
      obtain ⟨hopen, hlast⟩ := ih fun tag attrs h => hpast tag attrs (List.mem_cons_of_mem _ h)
      cases e with
      | start tag attrs =>
        have htag := hpast tag attrs List.mem_cons_self
        exact ⟨by rw [openOf, htag, hopen]; rfl, htag⟩
      | finish tag => exact ⟨by rw [openOf, hopen]; rfl, hlast⟩
      | data t => exact ⟨hopen, hlast⟩
      | comment t => exact ⟨hopen, hlast⟩
  rw [governs, h.1, h.2]
  rfl

/-- Blank texts leave nothing. -/
theorem flatMap_collapse_strip_eq_nil {ts : List Text} (h : ∀ t ∈ ts, Text.allBlank t = true) :
    (ts.flatMap fun t => Text.collapse (Text.strip t)) = [] := by
  rw [List.flatMap_eq_nil_iff]
  intro t ht
  rw [Text.strip_eq_nil_iff.2 (h t ht)]
  rfl

/-- **An end tag writes the texts that wait for it, stripped and collapsed one by one**, where no
element keeps its blanks. -/
theorem text_eq_gathered (hcollapse : o.collapseWhitespace = true)
    (hpast : ∀ tag attrs, .start tag attrs ∈ past → keepsRuns tag.lower = false) :
    text o past = (gathered o past).flatMap fun t => Text.collapse (Text.strip t) := by
  induction past with
  | nil => rfl
  | cons e past ih =>
    have hbefore : ∀ tag attrs, .start tag attrs ∈ past → keepsRuns tag.lower = false :=
      fun tag attrs h => hpast tag attrs (List.mem_cons_of_mem _ h)
    have htext := ih hbefore
    cases e with
    | start tag attrs => rfl
    | finish tag =>
      rw [text, gathered, htext]
      cases hwritten : writesEnd o tag with
      | false => simp
      | true =>
        -- what is kept for an element that is removed is blank
        rw [if_pos rfl, Bool.not_true, Bool.or_false]
        split
        · rename_i hremoved
          simp only [Bool.and_eq_true] at hremoved
          rw [flatMap_collapse_strip_eq_nil (List.all_eq_true.1 hremoved.1.1.2)]
        · rfl
    | data t =>
      cases t with
      | none => exact htext
      | some t =>
        have hruns : governs keepsRuns past = false := governs_of_no_start rfl hbefore
        have hends : governs keepsEnds past = false := by
          rw [Bool.eq_false_iff] at hruns ⊢
          exact mt (governs_mono fun _ => keepsRuns_of_keepsEnds) hruns
        rw [text, gathered, htext, normal]
        simp [hcollapse, hends, hruns]
    | comment t => exact htext

/-- Outside of raw text every run without a fault follows its past, whatever the options are. -/
theorem feed_follows_plain {events : List Event} (hplain : ∀ e ∈ events, e.startsRaw = false)
    (hok : ((Page.opening o).feed tools o s events).fault = none) :
    Follows o events.reverse ((Page.opening o).feed tools o s events).run ∧
      RawKind.ofTag? (lastTag events.reverse) = none := by
  have h := Run.feed_invariant
    (P := fun past r => Follows o past r ∧ RawKind.ofTag? (lastTag past) = none)
    (fun past r s e he h hok =>
      ⟨step_follows_plain (by rw [h.1.tag]; exact h.2) h.1 hok,
        ofTag?_lastTag_cons (hplain e he) h.2⟩)
    ⟨follows_opening o, rfl⟩ hok
  rwa [List.append_nil] at h

/-- An element that keeps no runs of blanks has no raw text. -/
theorem ofTag?_eq_none_of_not_keepsRuns {tag : Text} (h : keepsRuns tag = false) :
    RawKind.ofTag? tag = none := by
  simp only [keepsRuns, List.contains_eq_mem, List.mem_cons, decide_eq_false_iff_not,
    not_or] at h
  rw [RawKind.ofTag?, if_neg (by simpa using h.1), if_neg (by simpa using h.2.1)]

end Transcript

/-! ## What end tags write -/

namespace Page

open Transcript

/-- **The form of collapsed text.**  Take events that start none of the elements whose blanks mean
something, with blanks collapsed and whatever the other options are.  Every end tag that a page
comes to adds one chunk of text, before it closes its element.  The chunk has no blank at its ends
and no two side by side, its ink is that of the texts that wait for the tag, in order, and tidying
leaves it as it is.  If one text waits, the chunk has the words of that text. -/
theorem endText_collapsed (tools : Tools) (o : Options) (s : Service) (events : List Event)
    (hcollapse : o.collapseWhitespace = true)
    (hplain : ∀ tag attrs, .start tag attrs ∈ events →
      tag.lower ∉ ([("script" : Text), "style", "pre", "textarea"] : List Text))
    (before after : List Event) (tag : Text) (hsplit : events = before ++ .finish tag :: after)
    (hok : ((opening o).feed tools o s before).fault = none) :
    let step := (opening o).feed tools o s before
    let texts := gathered o before.reverse
    ∃ text,
      step.run.finish tools o step.service tag
          = (step.run.settle o tag text).close o step.service tag ∧
        (step.run.settle o tag text).chunks = step.run.chunks ++ [text] ∧
        text.Collapsed ∧ text.ink = texts.flatMap Text.ink ∧ Chunk.tidy text = text ∧
        ∀ t, texts = [t] → text.words = t.words := by
  intro step texts
  have hkeeps : ∀ tag attrs, .start tag attrs ∈ before → keepsRuns tag.lower = false := by
    intro tag attrs hstart
    have htag := hplain tag attrs (by rw [hsplit]; exact List.mem_append_left _ hstart)
    simpa [keepsRuns] using htag
  have hraw : ∀ e ∈ before, e.startsRaw = false := by
    intro e he
    cases e with
    | start tag attrs =>
      rw [Event.startsRaw, ofTag?_eq_none_of_not_keepsRuns (hkeeps tag attrs he)]
      rfl
    | finish tag => rfl
    | data t => rfl
    | comment t => rfl
  obtain ⟨hfollows, htag⟩ := feed_follows_plain hraw hok
  have htext : step.run.pending = texts.flatMap fun t => Text.collapse (Text.strip t) := by
    rw [hfollows.pending]
    exact text_eq_gathered hcollapse fun tag attrs h => hkeeps tag attrs (List.mem_reverse.1 h)
  have hcollapsed : step.run.pending.Collapsed := by
    rw [htext, List.flatMap_def]
    refine Text.collapsed_flatten fun t ht => ?_
    obtain ⟨u, -, rfl⟩ := List.mem_map.1 ht
    exact Text.collapsed_collapse_strip u
  refine ⟨step.run.pending, ?_, rfl, hcollapsed, ?_, hcollapsed.tidy_eq, ?_⟩
  · rw [Run.finish, closingText_of_plain (by rw [hfollows.tag]; exact htag)]
  · rw [htext, Text.ink, List.filter_flatMap]
    congr 1
    funext t
    show Text.ink (Text.collapse (Text.strip t)) = Text.ink t
    rw [Text.ink_collapse, Text.ink_strip]
  · intro t hone
    rw [htext, hone, List.flatMap_singleton, Text.words_collapse_strip]

/-- A text that an implied end tag has left waiting, at the end tag that writes it again. -/
theorem endText_collapsed_option :
    let before : List Event :=
      [.start "SELECT" [], .start "option" [], .data (some "\u00a0 a \n b"), .finish "option",
        .comment "c"]
    let step := (opening {}).feed {} {} { replies := [] } before
    step.fault = none ∧ gathered {} before.reverse = [("\u00a0 a \n b" : Text)] ∧
      ∃ text, step.run.finish {} {} step.service "select"
          = (step.run.settle {} "select" text).close {} step.service "select" ∧
        text.Collapsed ∧ text.words = [("a" : Text), "b"] := by
  intro before step
  have hplain : ∀ tag attrs, .start tag attrs ∈ before ++ [.finish "select"] →
      tag.lower ∉ ([("script" : Text), "style", "pre", "textarea"] : List Text) := by
    intro tag attrs hstart
    simp only [before, List.mem_append, List.mem_cons, reduceCtorEq, Event.start.injEq, or_false,
      List.not_mem_nil] at hstart
    rcases hstart with ⟨rfl, -⟩ | ⟨rfl, -⟩ <;> decide +kernel
  have hok : step.fault = none := by decide +kernel
  have hone : gathered {} before.reverse = [("\u00a0 a \n b" : Text)] := by decide +kernel
  obtain ⟨text, hfinish, -, hcollapsed, -, -, hwords⟩ :=
    endText_collapsed {} {} { replies := [] } _ rfl hplain before [] "select" rfl hok
  exact ⟨hok, hone, text, hfinish, hcollapsed, (hwords _ hone).trans (by decide +kernel)⟩

end Page

end PagePress

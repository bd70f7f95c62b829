import PagePress.Proofs.Occurrences
import PagePress.Proofs.OpeningMarks
import PagePress.Proofs.Preformatted

/-!
# Tidying chunks

At the end of a page every chunk is tidied.  `Chunk.tidy` is defined by what is left.  The same can
be said by what is searched for and replaced: two or more blanks at the beginning, which become the
last of them, and two or more at the end, which become the first.  This file shows that both come to
the same, and what follows for a page.

* `longest` is a search for one or more characters of a class that takes as many as it can and gives
  back some of them if nothing else helps.
* `replaceLead` and `Text.substitute trailRule` are the two replacements, and `replaceEnds` does one
  after the other.  The second looks for the end of the text, or for the place before a final line
  feed; but the line feed is a blank itself, so that the search never stops before it.
* `tidy_cases` says what tidying leaves of a chunk, and `replaceEnds_eq_tidy` that replacing leaves
  the same.
* `minify_tidied` is about the answer of a minifier, and collects the laws of tidying.
-/

set_option autoImplicit false

namespace PagePress

namespace Chunk

open Text

/-! ## Searching for blanks -/

/-- One or more characters of a class, as many as possible, with something behind them that `next`
accepts. -/
def longest {α : Type} (p : Char → Bool) (next : Text → Option α) : Text → Option α
  | [] => none
  | c :: cs => if p c then (longest p next cs).or (next cs) else none

/-- A blank, and what is behind it. -/
def blank? : Text → Option (Char × Text)
  | [] => none
  | c :: cs => if isBlank c then some (c, cs) else none

/-- What is behind the end of a text: nothing, or a final line feed that is let pass. -/
def atEnd? (t : Text) : Option Text := if t = [] ∨ t = ['\n'] then some t else none

/-- The text with the last of two or more blanks at its beginning in place of all of them. -/
def replaceLead (t : Text) : Text :=
  match longest isBlank blank? t with
  | some (c, rest) => c :: rest
  | none => t

/-- Two or more blanks at the end of a text are replaced by the first of them. -/
def trailRule : Rule := fun t =>
  match blank? t with
  | none => none
  | some (c, rest) =>
    (longest isBlank atEnd? rest).map fun behind => ([c], t.length - behind.length)

/-- A chunk with its blanks replaced: all of them by the first if there is nothing else, and
otherwise those at the beginning and at the end. -/
def replaceEnds (t : Text) : Text :=
  if t.any (!isBlank ·) then substitute trailRule (replaceLead t) else t.take 1

variable {t rest lead trail : Text}

theorem tidy_of_allBlank (h : allBlank t = true) : tidy t = t.take 1 := if_pos h

/-- **What tidying leaves of a chunk**: a character of a blank one, and of any other the body with
at most one blank on each side. -/
theorem tidy_cases (t : Text) :
    allBlank t = true ∧ tidy t = t.take 1 ∨
      allBlank t = false ∧ ∃ lead body trail, Framed t lead body trail ∧ body ≠ [] ∧
        tidy t = lead.getLast?.toList ++ body ++ trail.head?.toList := by
  cases hblank : allBlank t with
  | true => exact .inl ⟨rfl, tidy_of_allBlank hblank⟩
  | false =>
    have hne : strip t ≠ [] := by
      rw [Ne, strip_eq_nil_iff, hblank]
      decide
    obtain ⟨lead, trail, h⟩ := exists_framed t
    exact .inr ⟨rfl, lead, strip t, trail, h, hne, h.tidy_eq hne⟩

theorem longest_eq_some {α : Type} {p : Char → Bool} {next : Text → Option α} {a : α}
    (h : longest p next t = some a) :
    ∃ run rest, (∀ c ∈ run, p c = true) ∧ t = run ++ rest ∧ next rest = some a := by
  induction t with
  | nil => cases h
  | cons c cs ih =>
    rw [longest] at h
    split at h
    · rename_i hc
      rcases Option.or_eq_some_iff.1 h with hmore | ⟨-, hnext⟩
      · obtain ⟨run, rest, hrun, rfl, hnext⟩ := ih hmore
        exact ⟨c :: run, rest, List.forall_mem_cons.2 ⟨hc, hrun⟩, rfl, hnext⟩
      · exact ⟨[c], cs, by simpa using hc, rfl, hnext⟩
    · cases h

/-! ## Blanks at the beginning -/

/-- A text that starts with no blank has none to find. -/
theorem longest_of_head {α : Type} (next : Text → Option α)
    (hrest : ∀ c ∈ rest.head?, isBlank c = false) : longest isBlank next rest = none := by
  cases rest with
  | nil => rfl
  | cons c cs => rw [longest, hrest c rfl]; rfl

theorem blank?_of_head (hrest : ∀ c ∈ rest.head?, isBlank c = false) : blank? rest = none := by
  cases rest with
  | nil => rfl
  | cons c cs => rw [blank?, hrest c rfl]; rfl

/-- Of two or more blanks at the beginning the last one is found. -/
theorem longest_blank? {c d : Char} {init : Text} (hc : isBlank c = true)
    (hinit : ∀ x ∈ init, isBlank x = true) (hd : isBlank d = true)
    (hrest : ∀ c ∈ rest.head?, isBlank c = false) :
    longest isBlank blank? (c :: init ++ d :: rest) = some (d, rest) := by
  induction init generalizing c with
  | nil =>
    -- the second blank is left to the search behind the first
    have hlast : longest isBlank blank? (d :: rest) = none := by
      rw [longest, longest_of_head _ hrest, blank?_of_head hrest]
      exact ite_self _
    show longest isBlank blank? (c :: d :: rest) = _
    rw [longest, if_pos hc, hlast, Option.none_or, blank?, if_pos hd]
  | cons e es ih =>
    obtain ⟨he, hes⟩ := List.forall_mem_cons.1 hinit
    rw [List.cons_append, longest, if_pos hc, ih he hes, Option.some_or]

/-- **What is left of the blanks at the beginning**: the last of them. -/
theorem replaceLead_append (hlead : ∀ c ∈ lead, isBlank c = true)
    (hrest : ∀ c ∈ rest.head?, isBlank c = false) :
    replaceLead (lead ++ rest) = lead.getLast?.toList ++ rest := by
  rw [replaceLead]
  rcases lead with _ | ⟨c, tail⟩
  · rw [List.nil_append, longest_of_head _ hrest]
    rfl
  · obtain ⟨hc, htail⟩ := List.forall_mem_cons.1 hlead
    rcases List.eq_nil_or_concat tail with rfl | ⟨init, d, rfl⟩
    · have hone : longest isBlank blank? ([c] ++ rest) = none := by
        rw [List.singleton_append, longest, longest_of_head _ hrest, blank?_of_head hrest]
        exact ite_self _
      rw [hone]
      rfl
    · have hinit : ∀ x ∈ init, isBlank x = true := fun x hx => htail x (by simp [hx])
      have hmany : longest isBlank blank? ((c :: init.concat d) ++ rest) = some (d, rest) := by
        have h := longest_blank? hc hinit (htail d (by simp)) hrest
        simpa using h
      rw [hmany]
      simp [List.getLast?_cons]

/-! ## Blanks at the end -/

/-- The end of a text has at most a line feed behind it. -/
theorem allBlank_of_atEnd? {behind : Text} (h : atEnd? t = some behind) : allBlank t = true := by
  rw [atEnd?] at h
  split at h
  · rename_i hend
    rcases hend with rfl | rfl <;> decide
  · cases h

theorem trailRule_cons {c : Char} (hc : isBlank c = true) (cs : Text) :
    trailRule (c :: cs)
      = (longest isBlank atEnd? cs).map fun behind => ([c], cs.length + 1 - behind.length) := by
  rw [trailRule, blank?, if_pos hc]
  rfl

/-- Where the rule for the end applies there are only blanks. -/
theorem allBlank_of_trailRule {found : Text × Nat} (h : trailRule t = some found) :
    allBlank t = true := by
  cases t with
  | nil => rfl
  | cons c cs =>
    by_cases hc : isBlank c = true
    · rw [trailRule_cons hc, Option.map_eq_some_iff] at h
      obtain ⟨behind, hbehind, -⟩ := h
      obtain ⟨run, rest, hrun, rfl, hend⟩ := longest_eq_some hbehind
      have hblank : allBlank (run ++ rest) = true :=
        allBlank_append (List.all_eq_true.2 hrun) (allBlank_of_atEnd? hend)
      rw [allBlank, List.all_cons, hc, Bool.true_and]
      exact hblank
    · rw [trailRule, blank?, if_neg hc] at h
      cases h

/-- Before the last character that is no blank nothing is replaced. -/
theorem substituteAfter_trailRule {x : Char} (hx : isBlank x = false) (init trail : Text) :
    substituteAfter trailRule 0 (init ++ x :: trail)
      = init ++ x :: substituteAfter trailRule 0 trail := by
  have hnone : ∀ u : Text, trailRule (u ++ x :: trail) = none := by
    intro u
    rw [Option.eq_none_iff_forall_ne_some]
    intro found hfound
    have hblank := List.all_eq_true.1 (allBlank_of_trailRule hfound) x (by simp)
    rw [hx] at hblank
    cases hblank
  induction init with
  | nil =>
    have hhere : trailRule (x :: trail) = none := hnone []
    rw [List.nil_append, substituteAfter, hhere]
    rfl
  | cons c cs ih =>
    have hhere : trailRule (c :: (cs ++ x :: trail)) = none := hnone (c :: cs)
    rw [List.cons_append, substituteAfter, hhere]
    exact congrArg (c :: ·) ih

/-- Blanks that reach the end are all found, the line feed at the end included. -/
theorem longest_atEnd? (hne : trail ≠ []) (htrail : ∀ c ∈ trail, isBlank c = true) :
    longest isBlank atEnd? trail = some [] := by
  induction trail with
  | nil => exact absurd rfl hne
  | cons c cs ih =>
    obtain ⟨hc, hcs⟩ := List.forall_mem_cons.1 htrail
    rw [longest, if_pos hc]
    by_cases hnil : cs = []
    · rw [hnil]
      rfl
    · rw [ih hnil hcs, Option.some_or]

/-- **What is left of the blanks at the end**: the first of them. -/
theorem substituteAfter_trail (htrail : ∀ c ∈ trail, isBlank c = true) :
    substituteAfter trailRule 0 trail = trail.head?.toList := by
  cases trail with
  | nil => rfl
  | cons c cs =>
    obtain ⟨hc, hcs⟩ := List.forall_mem_cons.1 htrail
    by_cases hnil : cs = []
    · have hone : trailRule [c] = none := trailRule_cons hc []
      rw [hnil, substituteAfter, hone]
      rfl
    · have hall : trailRule (c :: cs) = some ([c], cs.length + 1) := by
        rw [trailRule_cons hc, longest_atEnd? hnil hcs]
        rfl
      rw [substituteAfter, hall]
      dsimp only
      rw [substituteAfter_eq_drop, Nat.add_sub_cancel, List.drop_length]
      rfl

/-- **Tidying is replacing.** -/
theorem replaceEnds_eq_tidy (t : Text) : replaceEnds t = tidy t := by
  rcases tidy_cases t with ⟨hblank, htidy⟩ | ⟨hblank, lead, body, trail, h, hne, htidy⟩
  · have hnone : t.any (!isBlank ·) = false := by
      simpa [allBlank] using hblank
    rw [replaceEnds, hnone, htidy]
    rfl
  · have hsome : t.any (!isBlank ·) = true := by
      simpa [allBlank] using hblank
    obtain ⟨init, x, rfl⟩ := (List.eq_nil_or_concat body).resolve_left hne
    have hx : isBlank x = false := h.last x (by simp)
    have hhead : ∀ c ∈ (init.concat x ++ trail).head?, isBlank c = false := by
      rw [List.head?_append_of_ne_nil _ hne]
      exact h.head
    have hlead : replaceLead t = lead.getLast?.toList ++ (init.concat x ++ trail) := by
      rw [h.eq, List.append_assoc]
      exact replaceLead_append (List.all_eq_true.1 h.lead) hhead
    have hsplit : lead.getLast?.toList ++ (init.concat x ++ trail)
        = (lead.getLast?.toList ++ init) ++ x :: trail := by
      simp
    rw [replaceEnds, if_pos hsome, hlead, hsplit, substitute, substituteAfter_trailRule hx,
      substituteAfter_trail (List.all_eq_true.1 h.trail), htidy]
    simp

/-! ## The laws of tidying -/

/-- A text with a body has the same body when it is tidied. -/
theorem framed_tidy {body : Text} (h : Framed t lead body trail) (hne : body ≠ []) :
    Framed (tidy t) lead.getLast?.toList body trail.head?.toList where
  eq := h.tidy_eq hne
  lead := List.all_eq_true.2 fun c hc =>
    List.all_eq_true.1 h.lead c (List.mem_of_mem_getLast? (Option.mem_toList.1 hc))
  trail := List.all_eq_true.2 fun c hc =>
    List.all_eq_true.1 h.trail c (List.mem_of_mem_head? (Option.mem_toList.1 hc))
  head := h.head
  last := h.last

theorem tidy_tidy (t : Text) : tidy (tidy t) = tidy t := by
  rcases tidy_cases t with ⟨hblank, htidy⟩ | ⟨-, lead, body, trail, h, hne, htidy⟩
  · have htake : allBlank (t.take 1) = true :=
      List.all_eq_true.2 fun c hc => List.all_eq_true.1 hblank c (List.mem_of_mem_take hc)
    rw [htidy, tidy_of_allBlank htake, List.take_take]
    rfl
  · rw [(framed_tidy h hne).tidy_eq hne, htidy]
    cases lead.getLast? <;> cases trail.head? <;> rfl

theorem length_tidy_le (t : Text) : (tidy t).length ≤ t.length := by
  rcases tidy_cases t with ⟨-, htidy⟩ | ⟨-, lead, body, trail, h, -, htidy⟩
  · rw [htidy]
    exact List.length_take_le' 1 t
  · have hlength := congrArg List.length h.eq
    rw [htidy]
    simp only [List.length_append, length_toList_getLast?, length_toList_head?] at hlength ⊢
    omega

theorem tidy_eq_nil_iff {t : Text} : tidy t = [] ↔ t = [] := by
  constructor
  · intro hnil
    have hblank : allBlank t = true := by
      rw [← ink_eq_nil_iff, ← ink_tidy, hnil, ink_nil]
    rw [tidy_of_allBlank hblank, List.take_eq_nil_iff] at hnil
    exact hnil.resolve_left (by decide)
  · rintro rfl
    rfl

end Chunk

namespace Session

/-- **What tidying does to a page.**  A minifier that answers with a text answers with all chunks of
its results, tidied one by one and joined.  A chunk is tidied by replacing the blanks at its
beginning and its end.  That leaves nothing of an empty chunk and one character of a blank one, the
first.  Of any other chunk it leaves the last of the blanks before its body, the body, and the first
of the blanks behind it.  So tidying a chunk again changes nothing, it never makes a chunk longer,
it keeps the ink, and only an empty chunk is empty afterwards. -/
theorem minify_tidied (s : Session) (name : Text) (m : Minifier)
    (page : Option (Text × Except Fault (List Event))) (text : Text)
    (h : (s.minify name m page).2.answer = .ok (.text text)) :
    text = (s.minify name m page).1.results.flatMap Chunk.tidy ∧
      (∀ c, Chunk.tidy c = Chunk.replaceEnds c) ∧
      Chunk.tidy [] = [] ∧
      (∀ b bs, Text.allBlank (b :: bs) = true → Chunk.tidy (b :: bs) = [b]) ∧
      (∀ c, Text.allBlank c = false → ∃ lead body trail, Text.Framed c lead body trail ∧
        body ≠ [] ∧ Chunk.tidy c = lead.getLast?.toList ++ body ++ trail.head?.toList) ∧
      ∀ c, Chunk.tidy (Chunk.tidy c) = Chunk.tidy c ∧ (Chunk.tidy c).length ≤ c.length ∧
        Text.ink (Chunk.tidy c) = Text.ink c ∧ (c ≠ [] → Chunk.tidy c ≠ []) := by
  refine ⟨?_, fun c => (Chunk.replaceEnds_eq_tidy c).symm, rfl,
    fun b bs hblank => Chunk.tidy_of_allBlank hblank, fun c hink => ?_, fun c =>
    ⟨Chunk.tidy_tidy c, Chunk.length_tidy_le c, Chunk.ink_tidy c, mt Chunk.tidy_eq_nil_iff.1⟩⟩
  · rcases page with _ | ⟨_ | ⟨c, cs⟩, read⟩
    · cases h
    · cases h
    · cases read with
      | error fault => cases h
      | ok events =>
        rw [minify_answer] at h
        rw [minify_results]
        cases hfault : (Page.minifyEvents s.tools m.settings.options s.service events).fault with
        | some fault =>
          rw [hfault] at h
          cases h
        | none =>
          rw [hfault] at h
          cases h
          rfl
  · rcases Chunk.tidy_cases c with ⟨hblank, -⟩ | ⟨-, hframed⟩
    · rw [hink] at hblank
      cases hblank
    · exact hframed

/-- The chunks that were there before a page are tidied with it. -/
theorem minify_tidied_behind :
    let s : Session := { results := ["\n  x \t", " \n", ""] }
    let events : List Event := [.start "p" [], .data (some " a\n "), .finish "p"]
    let after := s.minify "m" {} (some (['y'], .ok events))
    after.2.answer = .ok (.text " x  <!DOCTYPE html><p>a</p>") ∧
      after.1.results.flatMap Chunk.tidy = (" x  <!DOCTYPE html><p>a</p>" : Text) := by
  intro s events after
  have hanswer : after.2.answer = .ok (.text " x  <!DOCTYPE html><p>a</p>") := by
    have hfault : (Page.minifyEvents {} {} { replies := [] } events).fault = none := by
      decide +kernel
    have hpage :
        Chunk.page (s.results ++ (Page.minifyEvents {} {} { replies := [] } events).emitted)
          = " x  <!DOCTYPE html><p>a</p>".toList := by
      decide +kernel
    show (s.minify "m" {} (some (['y'], .ok events))).2.answer = _
    rw [minify_answer, show ({} : Minifier).settings.options = {} from Settings.options_default,
      hfault, hpage]
  exact ⟨hanswer, (minify_tidied s "m" {} _ _ hanswer).1.symm⟩

end Session

end PagePress

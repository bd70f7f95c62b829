import PagePress.Proofs.CollapsedText
import PagePress.Proofs.ScriptBundles

/-!
# Where bundled texts meet

Scripts are joined as they are, and the lines of a stylesheet are joined when their ends are taken
out.  What stood on two lines, or was two words, can become one.  This file says exactly when that
happens: where two texts that are not empty meet, and no character that ends a line or parts words
stands there.

* `Text.Parted p t u` says that a character of the class `p` stands where `t` and `u` meet.  Two
  texts that are parted have the pieces of both, and two that are not have one piece less.
* `Text.pieces_flatten_iff` says it of a row of texts.  No seam makes up for another, since joining
  never adds a piece (`Text.length_pieces_flatten_le`).
* `Bundle.scripts_lines_iff` applies it to the files of scripts, and `Bundle.styles_words_iff` to
  the lines of stylesheets.
-/

set_option autoImplicit false

namespace PagePress

namespace Text

variable {p : Char → Bool} {t u : Text}

/-! ## Two texts -/

/-- Where the texts meet stands a character of the class. -/
def Parted (p : Char → Bool) (t u : Text) : Prop :=
  (∃ c ∈ t.getLast?, p c = true) ∨ ∃ c ∈ u.head?, p c = true

theorem pieces_append_of_parted (h : Parted p t u) :
    pieces p (t ++ u) = pieces p t ++ pieces p u := by
  rcases h with ⟨c, hlast, hc⟩ | ⟨c, hhead, hc⟩
  · obtain ⟨init, rfl⟩ := List.getLast?_eq_some_iff.1 hlast
    have hend : pieces p (init ++ [c]) = pieces p init := by
      rw [pieces_append_cons hc, show pieces p [] = [] from rfl, List.append_nil]
    rw [List.append_assoc, List.singleton_append, pieces_append_cons hc, hend]
  · obtain ⟨rest, rfl⟩ := List.head?_eq_some_iff.1 hhead
    rw [pieces_append_cons hc, pieces_cons_pos hc]

/-- Two texts that are not parted have one piece less together. -/
theorem length_pieces_append_of_not_parted (ht : t ≠ []) (hu : u ≠ []) (h : ¬ Parted p t u) :
    (pieces p (t ++ u)).length + 1 = (pieces p t).length + (pieces p u).length := by
  obtain ⟨init, c, rfl⟩ := (List.eq_nil_or_concat t).resolve_left ht
  obtain ⟨d, rest, rfl⟩ := List.exists_cons_of_ne_nil hu
  simp only [Parted, List.concat_eq_append, List.getLast?_append, List.getLast?_singleton,
    List.head?_cons, Option.mem_def, not_or] at h
  rw [List.concat_eq_append]
  exact length_pieces_append (by simpa using h.1) (by simpa using h.2) init rest

theorem length_pieces_append_le (t u : Text) :
    (pieces p (t ++ u)).length ≤ (pieces p t).length + (pieces p u).length := by
  by_cases ht : t = []
  · simp [ht]
  by_cases hu : u = []
  · simp [hu]
  by_cases h : Parted p t u
  · rw [pieces_append_of_parted h, List.length_append]
  · rw [← length_pieces_append_of_not_parted ht hu h]
    exact Nat.le_succ _

/-! ## A row of texts -/

theorem length_pieces_flatten_le (texts : List Text) :
    (pieces p texts.flatten).length ≤ (texts.flatMap (pieces p)).length := by
  induction texts with
  | nil => simp [pieces]
  | cons t rest ih =>
    rw [List.flatten_cons, List.flatMap_cons, List.length_append]
    exact (length_pieces_append_le t _).trans (Nat.add_le_add_left ih _)

/-- **One text before others.**  They have the pieces that they have one by one exactly if the first
is parted from the others, and these have theirs. -/
theorem pieces_append_flatten_iff (ht : t ≠ []) {texts : List Text} (hne : texts.flatten ≠ []) :
    pieces p (t ++ texts.flatten) = pieces p t ++ texts.flatMap (pieces p) ↔
      Parted p t texts.flatten ∧ pieces p texts.flatten = texts.flatMap (pieces p) := by
  constructor
  · intro h
    have hparted : Parted p t texts.flatten := by
      by_contra hnot
      have hless := length_pieces_append_of_not_parted ht hne hnot
      have hlength := congrArg List.length h
      have hrest := length_pieces_flatten_le (p := p) texts
      rw [List.length_append] at hlength
      omega
    rw [pieces_append_of_parted hparted] at h
    exact ⟨hparted, List.append_cancel_left h⟩
  · rintro ⟨hparted, hrest⟩
    rw [pieces_append_of_parted hparted, hrest]

theorem pieces_flatten_iff_of_ne_nil {texts : List Text} (hne : ∀ t ∈ texts, t ≠ []) :
    pieces p texts.flatten = texts.flatMap (pieces p) ↔ texts.IsChain (Parted p) := by
  induction texts with
  | nil => simp [pieces]
  | cons t rest ih =>
    obtain ⟨ht, hrest⟩ := List.forall_mem_cons.1 hne
    cases rest with
    | nil => simp
    | cons u more =>
      have hu : u ≠ [] := hrest u List.mem_cons_self
      have hmeet : Parted p t (u :: more).flatten ↔ Parted p t u := by
        rw [Parted, Parted, List.flatten_cons, List.head?_append_of_ne_nil _ hu]
      rw [List.flatten_cons, List.flatMap_cons, pieces_append_flatten_iff ht (by simp [hu]), hmeet,
        ih hrest, List.isChain_cons_cons]

/-- **When a row of texts keeps its pieces.**  Texts that are joined have the pieces that they have
one by one exactly if a character of the class stands wherever two of them meet; texts that are
empty do not count. -/
theorem pieces_flatten_iff (texts : List Text) :
    pieces p texts.flatten = texts.flatMap (pieces p) ↔
      (texts.filter (!·.isEmpty)).IsChain (Parted p) := by
  have hpieces : ∀ texts : List Text,
      (texts.filter (!·.isEmpty)).flatMap (pieces p) = texts.flatMap (pieces p) := by
    intro texts
    induction texts with
    | nil => rfl
    | cons t rest ih => cases t <;> simp_all [pieces]
  rw [← pieces_flatten_iff_of_ne_nil (by simp), List.flatten_filter_not_isEmpty, hpieces]

/-! ## Lines -/

/-- The characters that are taken out where lines are joined. -/
def isLineEnd (c : Char) : Bool := c == '\r' || c == '\n'

theorem isBlank_of_isLineEnd {c : Char} (hc : isLineEnd c = true) : isBlank c = true := by
  simp only [isLineEnd, Bool.or_eq_true, beq_iff_eq] at hc
  rcases hc with rfl | rfl
  · rfl
  · rfl

/-- A text without the characters of a class is what stands between them, joined. -/
theorem filter_eq_flatten_splitOnP (p : Char → Bool) (t : Text) :
    t.filter (!p ·) = (t.splitOnP p).flatten := by
  induction t with
  | nil => rfl
  | cons c cs ih =>
    rw [List.filter_cons, List.splitOnP_cons_eq_if_modifyHead, ih]
    cases p c with
    | true => rfl
    | false =>
      obtain ⟨line, lines, hlines⟩ := List.exists_cons_of_ne_nil (List.splitOnP_ne_nil p cs)
      rw [hlines]
      rfl

/-- Pieces do not go beyond the characters of a smaller class.  The induction is on the text behind
`u`, which has none of them. -/
theorem pieces_append_eq_flatMap {q : Char → Bool} (hq : ∀ c, q c = true → p c = true) {u : Text}
    (hu : ∀ c ∈ u, q c = false) (t : Text) :
    pieces p (u ++ t) = ((u ++ t).splitOnP q).flatMap (pieces p) := by
  induction t generalizing u with
  | nil => rw [List.append_nil, List.splitOnP_eq_singleton hu, List.flatMap_singleton]
  | cons c cs ih =>
    by_cases hc : q c = true
    · have hrest : pieces p cs = (cs.splitOnP q).flatMap (pieces p) := ih (u := []) (by simp)
      rw [pieces_append_cons (hq c hc), hrest, List.splitOnP_append_cons u cs hc,
        List.splitOnP_eq_singleton hu, List.singleton_append, List.flatMap_cons]
    · rw [List.append_cons u c cs]
      refine ih (List.forall_mem_append.2 ⟨hu, ?_⟩)
      simpa using hc

/-- **When joining lines keeps the words.**  A text on one line has the words that it had exactly if
of two lines that are not empty and follow on each other, the first ends with a blank or the second
starts with one. -/
theorem words_oneLine_iff (t : Text) :
    words (Bundle.oneLine t) = words t ↔ (pieces isLineEnd t).IsChain (Parted isBlank) := by
  have hline : words (Bundle.oneLine t) = pieces isBlank (t.splitOnP isLineEnd).flatten := by
    rw [← filter_eq_flatten_splitOnP, Bundle.oneLine, words_strip, words_eq_pieces]
    congr 2
    funext c
    rw [isLineEnd, Bool.not_or]
    rfl
  have hwords : words t = (t.splitOnP isLineEnd).flatMap (pieces isBlank) :=
    pieces_append_eq_flatMap (u := []) (fun _ => isBlank_of_isLineEnd) (by simp) t
  rw [hline, hwords]
  exact pieces_flatten_iff _

end Text

namespace Bundle

variable {k : Toolkit} {d : Disk} {dir : Text} {nodes : List Node} {texts : List Text}

/-! ## Scripts -/

/-- **When bundled scripts keep their lines.**  For scripts that name files, the lines that are not
empty of the script that the service is asked to compile are those of the files, one after the
other, exactly if of two files that are not empty and follow on each other, the first ends with the
end of a line or the second starts with one.  That is so whatever characters end a line. -/
theorem scripts_lines_iff (s : Service) (isEnd : Char → Bool)
    (hfiles : List.Forall₂ (fun script text =>
      ∃ path, NamesFile d dir script path ∧ d.readText path = .ok text) nodes texts) :
    ∃ code, (scriptsText k d dir nodes).outcome = .ok code ∧
      (code ≠ [] → ∃ service request, (scripts k d (some s) dir nodes).2 = some service ∧
        service.requests = s.requests ++ [request] ∧ request.value? "js_code" = some code) ∧
      (Text.pieces isEnd code = texts.flatMap (Text.pieces isEnd) ↔
        (texts.filter (!·.isEmpty)).IsChain (Text.Parted isEnd)) := by
  have hadds : List.Forall₂ (Adds k d dir) nodes texts :=
    hfiles.imp fun _ _ ⟨_, hpath, hread⟩ => .file hpath hread
  have hcode := scriptsText_outcome hadds
  refine ⟨texts.flatten, hcode, fun hne => ?_, Text.pieces_flatten_iff texts⟩
  exact ⟨_, _, scripts_service hcode hne, rfl, Service.value?_compileRequest _ _⟩

/-- Of three files the first ends with a line feed, the second is empty and the third starts with
what it has to say: their lines are kept. -/
theorem scripts_lines_iff_kept :
    let d : Disk :=
      { files := [("/site/a.js", Utf8.encode "f()\ng() // last\n"), ("/site/b.js", []),
          ("/site/c.js", Utf8.encode "h()")] }
    let linked (src : Text) : Node := .element "script" [⟨"src", some src⟩] []
    let nodes : List Node := [linked "a.js", linked "b.js", linked "c.js"]
    ∃ code, (scriptsText {} d "/site" nodes).outcome = .ok code ∧
      Text.pieces (· == '\n') code = [("f()" : Text), "g() // last", "h()"] := by
  intro d linked nodes
  have hfiles : List.Forall₂ (fun script text =>
      ∃ path, NamesFile d "/site" script path ∧ d.readText path = .ok text) nodes
      [("f()\ng() // last\n" : Text), [], "h()"] := by
    refine .cons ⟨"/site/a.js", ⟨"a.js", rfl, ?_⟩, ?_⟩
      (.cons ⟨"/site/b.js", ⟨"b.js", rfl, ?_⟩, ?_⟩
        (.cons ⟨"/site/c.js", ⟨"c.js", rfl, ?_⟩, ?_⟩ .nil)) <;> decide +kernel
  obtain ⟨code, hcode, -, hlines⟩ := scripts_lines_iff { replies := [] } (· == '\n') hfiles
  refine ⟨code, hcode, (hlines.2 ?_).trans (by decide +kernel)⟩
  have hfilter : [("f()\ng() // last\n" : Text), [], "h()"].filter (!·.isEmpty)
      = [("f()\ng() // last\n" : Text), "h()"] := by decide
  rw [hfilter, List.isChain_cons_cons]
  exact ⟨.inl ⟨'\n', by decide, rfl⟩, .singleton _⟩

/-- A file that ends in a comment, without the end of a line, swallows the file behind it. -/
theorem scripts_lines_joined :
    let d : Disk :=
      { files := [("/site/a.js", Utf8.encode "f() // last"), ("/site/b.js", Utf8.encode "g()")] }
    let linked (src : Text) : Node := .element "script" [⟨"src", some src⟩] []
    let nodes : List Node := [linked "a.js", linked "b.js"]
    (scriptsText {} d "/site" nodes).outcome = .ok ("f() // lastg()" : Text) ∧
      Text.pieces (· == '\n') "f() // lastg()"
        ≠ Text.pieces (· == '\n') "f() // last" ++ Text.pieces (· == '\n') "g()" := by
  decide +kernel

/-! ## Styles -/

/-- **When bundled styles keep their words.**  The styles of a page that come to be compacted are
joined, and then put on one line.  The text on one line has the words that it had before exactly if
of two lines that are not empty and follow on each other, the first ends with a blank or the second
starts with one. -/
theorem styles_words_iff {earlier links styles : List Node} {linked inPage : Text}
    (hlinked : (linksText d dir [] (if links.isEmpty then [] else earlier ++ links)).outcome
      = .ok linked)
    (hinPage : (stylesText k d dir styles).outcome = .ok inPage)
    (hne : oneLine (linked ++ inPage) ≠ []) :
    (Bundle.styles k d dir earlier links styles).outcome
        = some <$> k.compactors.style (oneLine (linked ++ inPage)) ∧
      (Text.words (oneLine (linked ++ inPage)) = Text.words (linked ++ inPage) ↔
        (Text.pieces Text.isLineEnd (linked ++ inPage)).IsChain (Text.Parted isBlank)) := by
  refine ⟨?_, Text.words_oneLine_iff _⟩
  have hcompacted : compacted k (linked ++ inPage) = _ := if_neg hne
  rw [← hcompacted, ← outcome_compacted]
  simp only [Bundle.styles, Journal.outcome_bind, hlinked, hinPage]
  rfl

/-- Lines that are indented, or empty, keep their words apart. -/
theorem styles_words_iff_indented :
    let d : Disk := { files := [("/site/a.css", Utf8.encode "a\n  b\n\n {c:d}")] }
    let link : Node := .element "link" [⟨"href", some "a.css"⟩] []
    ∃ text, (Bundle.styles {} d "/site" [] [link] []).outcome = some <$> Stylesheet.compact text ∧
      Text.words text = [("a" : Text), "b", "{c:d}"] := by
  intro d link
  have hlinked : (linksText d "/site" [] (if [link].isEmpty then [] else [] ++ [link])).outcome
      = .ok ("a\n  b\n\n {c:d}" : Text) := by decide +kernel
  have hinPage : (stylesText {} d "/site" []).outcome = .ok ([] : Text) := rfl
  obtain ⟨houtcome, hwords⟩ := styles_words_iff hlinked hinPage (by decide +kernel)
  refine ⟨_, houtcome, (hwords.2 ?_).trans (by decide +kernel)⟩
  have hlines : Text.pieces Text.isLineEnd (("a\n  b\n\n {c:d}" : Text) ++ [])
      = [("a" : Text), "  b", " {c:d}"] := by decide +kernel
  rw [hlines, List.isChain_cons_cons, List.isChain_cons_cons]
  exact ⟨.inr ⟨' ', by decide, rfl⟩, .inr ⟨' ', by decide, rfl⟩, .singleton _⟩

/-- Two selectors on two lines become one. -/
theorem styles_words_joined :
    let d : Disk := { files := [("/site/a.css", Utf8.encode "a\nb{c:d}")] }
    let link : Node := .element "link" [⟨"href", some "a.css"⟩] []
    (linksText d "/site" [] [link]).outcome = .ok ("a\nb{c:d}" : Text) ∧
      oneLine "a\nb{c:d}" = "ab{c:d}" ∧
      Text.words (oneLine "a\nb{c:d}") ≠ Text.words "a\nb{c:d}" ∧
      (Bundle.styles {} d "/site" [] [link] []).outcome = .ok (some ("ab{c:d}" : Text)) := by
  decide +kernel

end Bundle

end PagePress

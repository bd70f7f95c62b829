import PagePress.Attribute.Fragment
import PagePress.Proofs.CollapsedText

/-!
# What cleaning takes off a value

A value is stripped first, and then a scheme and a semicolon may go as well.  Each of the three
searches sees what the one before has left, so that blanks between the parts can count to either of
them.  This file says what goes in all, without the searches.

* `Parts v lead scheme body close trail` cuts a value into the parts that may go and the body
  between them.
* `handlerBody_eq_iff` and `styleBody_eq_iff` say that the body is what cleaning leaves, and that no
  other text is.
* `clean_takes_off` collects what cleaning does, by the four classes of attributes.
* `clean_tableCells_iff` is about the cells of a table.  Every attribute of a header cell counts as
  a number, so that header cells and data cells are not cleaned alike.
-/

set_option autoImplicit false

namespace PagePress.Attribute

open Text

variable {v lead scheme body close trail : Text}

/-! ## The parts of a value -/

/-- The body of a value stands between blanks.  Before it a script scheme may stand, and behind it a
semicolon; the blanks between these and the body go with them. -/
structure Parts (v lead scheme body close trail : Text) : Prop where
  eq : v = lead ++ (scheme ++ (body ++ close)) ++ trail
  lead : allBlank lead = true
  trail : allBlank trail = true
  scheme : scheme = [] ∨ ∃ gap, allBlank gap = true ∧ scheme = "javascript:" ++ gap
  close : close = [] ∨ ∃ gap, allBlank gap = true ∧ close = gap ++ ";"
  /-- The body starts with no blank. -/
  head : ∀ c ∈ body.head?, isBlank c = false
  /-- The body ends with no blank. -/
  last : ∀ c ∈ body.getLast?, isBlank c = false

theorem dropFinalSemicolon_concat (t : Text) : dropFinalSemicolon (t ++ [';']) = stripEnd t := by
  rw [dropFinalSemicolon, List.getLast?_concat, List.dropLast_concat, if_pos (by simp)]

/-- Taking off a final semicolon makes a difference where there is one. -/
theorem dropFinalSemicolon_eq_self_iff {t : Text} :
    dropFinalSemicolon t = t ↔ t.getLast? ≠ some ';' := by
  constructor
  · intro h hlast
    obtain ⟨init, rfl⟩ := List.getLast?_eq_some_iff.1 hlast
    obtain ⟨gap, -, hinit⟩ := exists_stripEnd init
    rw [dropFinalSemicolon_concat] at h
    have hlength := congrArg List.length hinit
    rw [h] at hlength
    simp only [List.length_append, List.length_singleton] at hlength
    omega
  · intro h
    rw [dropFinalSemicolon, if_neg (by simpa using h)]

/-- A semicolon is taken off with the blanks before it. -/
theorem dropFinalSemicolon_strip {gap : Text} (hgap : allBlank gap = true) (t : Text) :
    dropFinalSemicolon (strip (t ++ (gap ++ ";"))) = strip t := by
  have hink : isBlank ';' = false := by decide
  have hstrip : strip (t ++ (gap ++ ";")) = stripStart (t ++ gap) ++ [';'] := by
    rw [← List.append_assoc, strip]
    exact (congrArg stripEnd (stripStart_append_cons hink (t ++ gap) [])).trans
      (stripEnd_concat hink _)
  rw [hstrip, dropFinalSemicolon_concat]
  exact strip_append_blank hgap t

theorem dropScheme_append (t : Text) : dropScheme ("javascript:" ++ t) = stripStart t := by
  have hafter : after? "javascript:" ("javascript:" ++ t) = some t := after?_eq_some_iff.2 rfl
  rw [dropScheme, hafter]

/-- A scheme is taken off with the blanks behind it. -/
theorem dropScheme_strip {gap : Text} (hgap : allBlank gap = true) (t : Text) :
    dropScheme (strip ("javascript:" ++ gap ++ t)) = strip t := by
  have hstrip : strip ("javascript:" ++ gap ++ t) = "javascript:" ++ stripEnd (gap ++ t) := by
    rw [List.append_assoc]
    exact stripEnd_ink_append (v := "javascript:") (by decide) (gap ++ t)
  rw [hstrip, dropScheme_append, stripStart_stripEnd, strip_blank_append hgap]

theorem dropScheme_eq_self {t : Text} (h : ¬ "javascript:".toList <+: t) : dropScheme t = t := by
  have hnone : after? "javascript:" t = none := by
    rw [← Option.not_isSome_iff_eq_none, isSome_after?_iff]
    exact h
  rw [dropScheme, hnone]

namespace Parts

theorem strip_body (h : Parts v lead scheme body close trail) : strip body = body :=
  strip_eq_self_iff.2 ⟨h.head, h.last⟩

theorem strip_eq (h : Parts v lead scheme body close trail) :
    strip v = strip (scheme ++ (body ++ close)) := by
  rw [h.eq, strip_append_blank h.trail, strip_blank_append h.lead]

/-- Where no semicolon is left over, taking it off leaves the body. -/
theorem dropFinalSemicolon_eq (h : Parts v lead scheme body close trail)
    (hclose : close = [] → body.getLast? ≠ some ';') :
    dropFinalSemicolon (strip (body ++ close)) = body := by
  rcases h.close with hnil | ⟨gap, hgap, rfl⟩
  · rw [hnil, List.append_nil, h.strip_body, dropFinalSemicolon_eq_self_iff.2 (hclose hnil)]
  · rw [dropFinalSemicolon_strip hgap, h.strip_body]

/-- Where no scheme is left over, taking it off leaves the body and the semicolon. -/
theorem dropScheme_eq (h : Parts v lead scheme body close trail)
    (hscheme : scheme = [] → ¬ "javascript:".toList <+: strip v) :
    dropScheme (strip v) = strip (body ++ close) := by
  rcases h.scheme with hnil | ⟨gap, hgap, rfl⟩
  · rw [dropScheme_eq_self (hscheme hnil), h.strip_eq, hnil, List.nil_append]
  · rw [h.strip_eq, dropScheme_strip hgap]

end Parts

/-- A stripped text is what is left without a final semicolon, and what was taken off. -/
theorem exists_close {u : Text} (hu : strip u = u) :
    ∃ close, u = dropFinalSemicolon u ++ close ∧
      strip (dropFinalSemicolon u) = dropFinalSemicolon u ∧
      (close = [] ∨ ∃ gap, allBlank gap = true ∧ close = gap ++ ";") ∧
      (close = [] → (dropFinalSemicolon u).getLast? ≠ some ';') := by
  by_cases hlast : u.getLast? = some ';'
  · obtain ⟨init, rfl⟩ := List.getLast?_eq_some_iff.1 hlast
    obtain ⟨gap, hgap, hinit⟩ := exists_stripEnd init
    have hstrip : dropFinalSemicolon (init ++ [';']) = strip init := by
      conv_lhs => rw [← hu]
      exact @dropFinalSemicolon_strip [] rfl init
    refine ⟨gap ++ ";", ?_, ?_, .inr ⟨gap, hgap, rfl⟩, by simp⟩
    · rw [dropFinalSemicolon_concat, ← List.append_assoc, ← hinit]
      rfl
    · rw [hstrip, strip_strip]
  · rw [dropFinalSemicolon_eq_self_iff.2 hlast]
    exact ⟨[], (List.append_nil u).symm, hu, .inl rfl, fun _ => hlast⟩

/-- A stripped text is the script scheme that was taken off, and what is left without it. -/
theorem exists_scheme {u : Text} (hu : strip u = u) :
    ∃ scheme, u = scheme ++ dropScheme u ∧ strip (dropScheme u) = dropScheme u ∧
      (scheme = [] ∨ ∃ gap, allBlank gap = true ∧ scheme = "javascript:" ++ gap) ∧
      (scheme = [] → ¬ "javascript:".toList <+: u) := by
  by_cases hopen : "javascript:".toList <+: u
  · obtain ⟨rest, rfl⟩ := hopen
    obtain ⟨gap, hgap, hrest⟩ := exists_stripStart rest
    have hstrip : dropScheme ("javascript:" ++ rest) = strip rest := by
      conv_lhs => rw [← hu]
      exact @dropScheme_strip [] rfl rest
    refine ⟨"javascript:" ++ gap, ?_, ?_, .inr ⟨gap, hgap, rfl⟩, by simp⟩
    · rw [dropScheme_append, List.append_assoc, ← hrest]
    · rw [hstrip, strip_strip]
  · rw [dropScheme_eq_self hopen]
    exact ⟨[], rfl, hu, .inl rfl, fun _ => hopen⟩

/-- **What is left of a handler** is the one body that the value has between its blanks, its scheme
and its semicolon, where neither of the last two is left standing. -/
theorem handlerBody_eq_iff (v body : Text) :
    dropFinalSemicolon (dropScheme (strip v)) = body ↔
      ∃ lead scheme close trail, Parts v lead scheme body close trail ∧
        (scheme = [] → ¬ "javascript:".toList <+: strip v) ∧
        (close = [] → body.getLast? ≠ some ';') := by
  constructor
  · rintro rfl
    obtain ⟨lead, trail, hframed⟩ := exists_framed v
    obtain ⟨scheme, hopen, hrest, hscheme, hnoScheme⟩ := exists_scheme (strip_strip v)
    obtain ⟨close, hsplit, hbody, hclose, hnoClose⟩ := exists_close hrest
    obtain ⟨hhead, hlast⟩ := strip_eq_self_iff.1 hbody
    refine ⟨lead, scheme, close, trail, ⟨?_, hframed.lead, hframed.trail, hscheme, hclose, hhead,
      hlast⟩, hnoScheme, hnoClose⟩
    rw [← hsplit, ← hopen, ← hframed.eq]
  · rintro ⟨lead, scheme, close, trail, h, hscheme, hclose⟩
    rw [h.dropScheme_eq hscheme, h.dropFinalSemicolon_eq hclose]

/-- **What is left of a style** is the one body that the value has between its blanks and its
semicolon, where that is not left standing. -/
theorem styleBody_eq_iff (v body : Text) :
    dropFinalSemicolon (strip v) = body ↔
      ∃ lead close trail, Parts v lead [] body close trail ∧
        (close = [] → body.getLast? ≠ some ';') := by
  constructor
  · rintro rfl
    obtain ⟨lead, trail, hframed⟩ := exists_framed v
    obtain ⟨close, hsplit, hbody, hclose, hnoClose⟩ := exists_close (strip_strip v)
    obtain ⟨hhead, hlast⟩ := strip_eq_self_iff.1 hbody
    refine ⟨lead, close, trail, ⟨?_, hframed.lead, hframed.trail, .inl rfl, hclose, hhead, hlast⟩,
      hnoClose⟩
    rw [List.nil_append, ← hsplit, ← hframed.eq]
  · rintro ⟨lead, close, trail, h, hclose⟩
    rw [h.strip_eq, List.nil_append, h.dropFinalSemicolon_eq hclose]

/-- What is left when only blanks go. -/
theorem strip_eq_iff (v body : Text) :
    strip v = body ↔ ∃ lead close trail, Parts v lead [] body close trail ∧ close = [] := by
  constructor
  · rintro rfl
    obtain ⟨lead, trail, h⟩ := exists_framed v
    exact ⟨lead, [], trail, ⟨by simpa using h.eq, h.lead, h.trail, .inl rfl, .inl rfl, h.head,
      h.last⟩, rfl⟩
  · rintro ⟨lead, close, trail, h, rfl⟩
    rw [h.strip_eq, List.nil_append, List.append_nil, h.strip_body]

/-! ## The classes of attributes -/

variable {tag name : Text}

theorem isEvent_iff :
    isEvent name = true ↔
      ∃ letters : Text, letters ≠ [] ∧ (∀ c ∈ letters, 'a' ≤ c ∧ c ≤ 'z') ∧
        name = "on" ++ letters := by
  fun_cases isEvent name with
  | case1 letters =>
    simp only [Bool.and_eq_true, Bool.not_eq_true', List.isEmpty_eq_false_iff, List.all_eq_true,
      decide_eq_true_eq]
    refine ⟨fun h => ⟨letters, h.1, h.2, rfl⟩, ?_⟩
    rintro ⟨letters', hne, hletters, heq⟩
    obtain rfl : letters = letters' := by simpa using heq
    exact ⟨hne, hletters⟩
  | case2 name hno =>
    refine iff_of_false Bool.false_ne_true ?_
    rintro ⟨letters, -, -, rfl⟩
    exact hno letters rfl

/-- A tag or a name that a table does not have has no entry in it. -/
theorem not_contains_of_map {table : List (Text × Text)} {entry : Text × Text}
    (part : Text × Text → Text) (h : part entry ∉ table.map part) :
    table.contains entry = false := by
  rw [Bool.eq_false_iff, Ne, List.contains_iff_mem]
  exact fun hmem => h (List.mem_map_of_mem hmem)

theorem clean_of_isEvent (h : isEvent name = true) (tag v : Text) :
    clean tag name v = dropFinalSemicolon (dropScheme (strip v)) := if_pos h

theorem clean_class (tag v : Text) : clean tag "class" v = collapse (strip v) := by
  rw [clean, if_neg (by decide), if_pos (by decide)]

/-- The style of a header cell is only stripped. -/
theorem clean_style (tag v : Text) :
    clean tag "style" v
      = if tag = "th" then strip v else dropFinalSemicolon (strip v) := by
  have haddress : isAddress tag "style" = false := not_contains_of_map Prod.snd <| by
    show ("style" : Text) ∉ addressAttributes.map Prod.snd
    decide
  have hnumber : numberAttributes.contains (tag, "style") = false :=
    not_contains_of_map Prod.snd <| by
      show ("style" : Text) ∉ numberAttributes.map Prod.snd
      decide
  rw [clean, if_neg (by decide), if_neg (by decide), haddress, isNumber, hnumber]
  simp

theorem clean_of_other (hevent : isEvent name = false) (hclass : name ≠ "class")
    (hstyle : name ≠ "style") (tag v : Text) :
    clean tag name v = if isAddress tag name || isNumber tag name then strip v else v := by
  rw [clean, if_neg (by simp [hevent]), if_neg (by simpa using hclass)]
  split
  · rfl
  · rw [if_neg (by simpa using hstyle)]

/-- **What cleaning takes off**, by what the attribute is for.  A handler loses the blanks at its
ends, one script scheme with the blanks behind it and one final semicolon with the blanks before it,
and what is left is the one text that this leaves.  A style loses the same except for a scheme, and
the style of a header cell only its blanks.  A class keeps its words in their order and comes to a
form that cleaning leaves as it is.  Every other attribute is kept or stripped. -/
theorem clean_takes_off (tag name v : Text) :
    (isEvent name = true ↔ ∃ letters : Text, letters ≠ [] ∧ (∀ c ∈ letters, 'a' ≤ c ∧ c ≤ 'z') ∧
        name = "on" ++ letters) ∧
      (isEvent name = true → ∀ r, clean tag name v = r ↔
        ∃ lead scheme close trail, Parts v lead scheme r close trail ∧
          (scheme = [] → ¬ "javascript:".toList <+: strip v) ∧
          (close = [] → r.getLast? ≠ some ';')) ∧
      (name = "style" → ∀ r, clean tag name v = r ↔
        ∃ lead close trail, Parts v lead [] r close trail ∧
          if tag = "th" then close = [] else close = [] → r.getLast? ≠ some ';') ∧
      (name = "class" → (clean tag name v).words = v.words ∧ (clean tag name v).Collapsed ∧
        clean tag name (clean tag name v) = clean tag name v) ∧
      (isEvent name = false → name ≠ "style" → name ≠ "class" →
        clean tag name v = v ∨ clean tag name v = strip v) := by
  refine ⟨isEvent_iff, fun hevent r => ?_, ?_, ?_, fun hevent hstyle hclass => ?_⟩
  · rw [clean_of_isEvent hevent, handlerBody_eq_iff]
  · rintro rfl r
    rw [clean_style]
    split
    · exact strip_eq_iff v r
    · exact styleBody_eq_iff v r
  · rintro rfl
    have hcollapsed : (collapse (strip v)).Collapsed := collapsed_collapse_strip v
    rw [clean_class, clean_class]
    exact ⟨words_collapse_strip v, hcollapsed, collapse_strip_eq_self_iff.2 hcollapsed⟩
  · rw [clean_of_other hevent hclass hstyle]
    split
    · exact .inr rfl
    · exact .inl rfl

/-- A handler that is a scheme and a semicolon has nothing left, and the style of a header cell
keeps its semicolon. -/
theorem clean_takes_off_handler :
    clean "a" "onclick" "\t javascript: ;\n" = [] ∧
      (∃ lead close trail, Parts " a:b ;" lead [] (clean "th" "style" " a:b ;") close trail ∧
        close = []) ∧
      (clean "p" "class" " b\n\ta\u00a0").words = [("b" : Text), "a"] ∧
      (clean "a" "href" " b " = " b " ∨ clean "a" "href" " b " = strip " b ") := by
  have hparts : Parts "\t javascript: ;\n" "\t " "javascript: " [] ";" "\n" :=
    ⟨by decide, by decide, by decide, .inr ⟨[' '], by decide, by decide⟩,
      .inr ⟨[], by decide, by decide⟩, by simp, by simp⟩
  obtain ⟨-, hevent, -⟩ := clean_takes_off "a" "onclick" "\t javascript: ;\n"
  obtain ⟨-, -, hstyle, -⟩ := clean_takes_off "th" "style" " a:b ;"
  obtain ⟨-, -, -, hclass, -⟩ := clean_takes_off "p" "class" " b\n\ta\u00a0"
  obtain ⟨-, -, -, -, hother⟩ := clean_takes_off "a" "href" " b "
  refine ⟨(hevent (by decide) []).2 ⟨_, _, _, _, hparts, fun h => absurd h (by decide),
    fun h => absurd h (by decide)⟩, ?_, (hclass rfl).1.trans (by decide +kernel),
    hother (by decide) (by decide) (by decide)⟩
  simpa using (hstyle rfl _).1 rfl

/-! ## Cells of a table -/

/-- Of a data cell the spans are stripped, and all else is kept. -/
theorem clean_td (hevent : isEvent name = false) (hclass : name ≠ "class")
    (hstyle : name ≠ "style") (v : Text) :
    clean "td" name v = if name = "rowspan" ∨ name = "colspan" then strip v else v := by
  have haddress : isAddress "td" name = false := not_contains_of_map Prod.fst <| by
    show ("td" : Text) ∉ addressAttributes.map Prod.fst
    decide
  have hnumber : isNumber "td" name = true ↔ name = "rowspan" ∨ name = "colspan" := by
    simp [isNumber, numberAttributes]
  rw [clean_of_other hevent hclass hstyle, haddress, Bool.false_or]
  simp only [hnumber]

/-- Of a header cell everything is stripped. -/
theorem clean_th (hevent : isEvent name = false) (hclass : name ≠ "class")
    (hstyle : name ≠ "style") (v : Text) : clean "th" name v = strip v := by
  have hnumber : isNumber "th" name = true := by simp [isNumber]
  rw [clean_of_other hevent hclass hstyle, hnumber, Bool.or_true, if_pos rfl]

/-- **When header cells and data cells are cleaned alike.**  Handlers, classes and spans are.  A
style is unless it ends in a semicolon, and any other attribute unless it has blanks at its ends:
of a data cell these are kept, and of a header cell they are stripped. -/
theorem clean_tableCells_iff (name v : Text) :
    (clean "th" name v = clean "td" name v ↔
        isEvent name = true ∨ name = "class" ∨ name = "rowspan" ∨ name = "colspan" ∨
          if name = "style" then (strip v).getLast? ≠ some ';' else strip v = v) ∧
      (isEvent name = false → name ≠ "class" → name ≠ "style" →
        clean "th" name v = strip v ∧
          clean "td" name v = if name = "rowspan" ∨ name = "colspan" then strip v else v) := by
  refine ⟨?_, fun hevent hclass hstyle =>
    ⟨clean_th hevent hclass hstyle v, clean_td hevent hclass hstyle v⟩⟩
  cases hevent : isEvent name with
  | true =>
    rw [clean_of_isEvent hevent, clean_of_isEvent hevent]
    exact iff_of_true rfl (.inl rfl)
  | false =>
    by_cases hclass : name = "class"
    · rw [hclass, clean_class, clean_class]
      exact iff_of_true rfl (.inr (.inl rfl))
    by_cases hstyle : name = "style"
    · rw [hstyle, clean_style, clean_style, if_pos rfl, if_neg (by decide), if_pos rfl, eq_comm,
        dropFinalSemicolon_eq_self_iff]
      simp
    · rw [clean_th hevent hclass hstyle, clean_td hevent hclass hstyle, if_neg hstyle]
      by_cases hspan : name = "rowspan" ∨ name = "colspan"
      · rw [if_pos hspan]
        exact iff_of_true rfl (.inr (.inr (or_assoc.1 (.inl hspan))))
      · obtain ⟨hrow, hcol⟩ := not_or.1 hspan
        rw [if_neg hspan, or_iff_right Bool.false_ne_true, or_iff_right hclass, or_iff_right hrow,
          or_iff_right hcol]

/-- Styles without a semicolon are cleaned alike, and abbreviations with blanks are not. -/
theorem clean_tableCells_iff_style :
    clean "th" "style" " a:b\n" = clean "td" "style" " a:b\n" ∧
      clean "th" "abbr" " a\n" = strip " a\n" ∧ clean "td" "abbr" " a\n" = " a\n" := by
  obtain ⟨-, hcells⟩ := clean_tableCells_iff "abbr" " a\n"
  obtain ⟨hheader, hdata⟩ := hcells (by decide) (by decide) (by decide)
  refine ⟨(clean_tableCells_iff "style" " a:b\n").1.2 ?_, hheader, hdata.trans (by decide)⟩
  exact .inr (.inr (.inr (.inr (by decide))))

/-- The title of a header cell is stripped, and that of a data cell is not. -/
theorem clean_tableCells_ne :
    clean "th" "title" " a " = "a" ∧ clean "td" "title" " a " = " a " ∧
      clean "th" "title" " a " ≠ clean "td" "title" " a " := by
  decide

end PagePress.Attribute

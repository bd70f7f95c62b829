import PagePress.Attribute.Fragment

/-!
# Which attributes are dropped, and how the others are written

An attribute with nothing but blanks in its value is found by its written value, after the quotes
were put on or left away.  So it is not plain from the test that the quotes make no difference to
it.

* `isEmptyQuoted_written` says that the test on the written value is one on the cleaned value: a
  value that stands without quotes is never blank.
* `IsDropped` are the attributes that are dropped, and `keptText` is the text of the others, both
  said by the cleaned value.
* `fragment_eq_ok` puts the two together for an attribute, and `Attributes.fragment_reading` for an
  attribute among those of its tag.
-/

set_option autoImplicit false

namespace PagePress

namespace Attribute

variable {o : Options} {tag name value : Text}

/-! ## Values without quotes -/

theorem isBare_bounds {c : Char} (h : isBare c = true) : 0x2D ≤ c.toNat ∧ c.toNat ≤ 0x7A := by
  simp only [isBare, Bool.or_eq_true, beq_iff_eq] at h
  rcases h with (((h | rfl) | rfl) | rfl) | rfl
  · obtain ⟨hlow, hhigh⟩ := Text.isAlphanum_bounds h
    omega
  all_goals decide

theorem isBlank_of_isBare {c : Char} (h : isBare c = true) : isBlank c = false := by
  obtain ⟨hlow, hhigh⟩ := isBare_bounds h
  simp only [isBlank, Bool.or_eq_false_iff, Bool.and_eq_false_iff, decide_eq_false_iff_not,
    beq_eq_false_iff_ne]
  omega

/-- A value that can stand without quotes is one or more bare characters, and perhaps a line
feed. -/
theorem canUnquote_iff {v : Text} :
    canUnquote v = true ↔
      ∃ w, w ≠ [] ∧ (∀ c ∈ w, isBare c = true) ∧ (v = w ∨ v = w ++ ['\n']) := by
  rw [canUnquote, Bool.and_eq_true, Bool.not_eq_true', List.isEmpty_eq_false_iff, List.all_eq_true,
    Text.dropFinalNewline]
  constructor
  · rintro ⟨hne, hbare⟩
    by_cases hlast : v.getLast? = some '\n'
    · rw [if_pos (beq_iff_eq.2 hlast)] at hne hbare
      obtain ⟨w, rfl⟩ := List.getLast?_eq_some_iff.1 hlast
      rw [List.dropLast_concat] at hne hbare
      exact ⟨w, hne, hbare, .inr rfl⟩
    · rw [if_neg (mt beq_iff_eq.1 hlast)] at hne hbare
      exact ⟨v, hne, hbare, .inl rfl⟩
  · rintro ⟨w, hne, hbare, rfl | rfl⟩
    · have hlast : v.getLast? ≠ some '\n' := fun h =>
        absurd (hbare _ (List.mem_of_getLast? h)) (by decide)
      rw [if_neg (mt beq_iff_eq.1 hlast)]
      exact ⟨hne, hbare⟩
    · simpa using ⟨hne, hbare⟩

/-- A value that can stand without quotes starts with a bare character. -/
theorem exists_cons_of_canUnquote {v : Text} (h : canUnquote v = true) :
    ∃ c cs, v = c :: cs ∧ isBare c = true := by
  obtain ⟨w, hne, hbare, hv⟩ := canUnquote_iff.1 h
  obtain ⟨c, cs, rfl⟩ := List.exists_cons_of_ne_nil hne
  rcases hv with rfl | rfl
  · exact ⟨c, cs, rfl, hbare c List.mem_cons_self⟩
  · exact ⟨c, cs ++ ['\n'], rfl, hbare c List.mem_cons_self⟩

/-- What is left of a text without a final line feed starts as the text does. -/
theorem head?_dropFinalNewline {c d : Char} {cs : Text}
    (h : d ∈ (Text.dropFinalNewline (c :: cs)).head?) : d = c := by
  rw [Text.dropFinalNewline] at h
  split at h
  · cases cs with
    | nil => cases h
    | cons e es => exact (Option.some.inj h).symm
  · exact (Option.some.inj h).symm

/-- **The test for an empty value** comes to the same for every value, whether it is written in
quotes or not. -/
theorem isEmptyQuoted_written (o : Options) (v : Text) :
    isEmptyQuoted (written o v) = Text.allBlank v := by
  rw [written]
  by_cases h : (o.removeAttributeQuotes && canUnquote v) = true
  · -- the first character is no quote, and no blank either
    rw [if_pos h]
    obtain ⟨c, cs, rfl, hc⟩ := exists_cons_of_canUnquote (Bool.and_eq_true_iff.1 h).2
    have hquote : (c == '"' || c == '\'') = false := by
      rw [Bool.or_eq_false_iff, beq_eq_false_iff_ne, beq_eq_false_iff_ne]
      exact ⟨fun h => absurd (h ▸ hc) (by decide), fun h => absurd (h ▸ hc) (by decide)⟩
    rw [Text.allBlank, List.all_cons, isBlank_of_isBare hc, Bool.false_and, isEmptyQuoted]
    cases hrest : Text.dropFinalNewline (c :: cs) with
    | nil => rfl
    | cons q rest =>
      obtain rfl : q = c := head?_dropFinalNewline (by rw [hrest]; rfl)
      dsimp only
      rw [hquote, Bool.false_and, Bool.false_and]
  · rw [if_neg h, isEmptyQuoted, Text.dropFinalNewline, List.getLast?_concat]
    simp

/-! ## The text of an attribute -/

/-- What the attribute says holds anyway, and it is to be dropped for it.  `names` are the names of
the attributes of the tag, and `name` is in lower case. -/
def SaysNothingNew (o : Options) (names : List Text) (tag name value : Text) : Prop :=
  (o.removeRedundantAttributes = true ∧ (redundancy tag name value).holds names = true) ∨
    (o.removeScriptTypeAttributes = true ∧ isUsualScriptType tag name value = true) ∨
    (o.removeStyleLinkTypeAttributes = true ∧ isUsualStyleType tag name value = true)

/-- The cleaned value is blank, and the attribute is to be dropped for it. -/
def SaysNothing (o : Options) (tag name value : Text) : Prop :=
  o.removeEmptyAttributes = true ∧ Text.allBlank (clean tag name value) = true ∧
    ((tag = "input" ∧ name = "value") ∨ isIdleWhenEmpty name = true)

/-- The attributes that are dropped. -/
def IsDropped (o : Options) (names : List Text) (tag name value : Text) : Prop :=
  SaysNothingNew o names tag name value ∨ SaysNothing o tag name value

/-- The text of an attribute that is not dropped. -/
def keptText (o : Options) (tag name value : Text) : Text :=
  if o.collapseBooleanAttributes = true ∧ isFlag name = true then ' ' :: name
  else if o.removeAttributeQuotes = true ∧ canUnquote (clean tag name value) = true then
    ' ' :: name ++ '=' :: clean tag name value
  else ' ' :: name ++ ['=', '"'] ++ clean tag name value ++ ['"']

theorem keptText_ne_nil : keptText o tag name value ≠ [] := by
  rw [keptText]
  split
  · simp
  · split <;> simp

/-- Where it is known whether an attribute is superfluous, this is known without the other
attributes of the tag. -/
theorem isSuperfluous_eq_ok {drop : Bool} (h : isSuperfluous o tag name value = .ok drop)
    (names : List Text) : drop = true ↔ SaysNothingNew o names tag name value := by
  rw [isSuperfluous] at h
  rw [SaysNothingNew]
  cases hon : o.removeRedundantAttributes with
  | false =>
    rw [hon, if_neg Bool.false_ne_true, Except.ok.injEq] at h
    simp [← h]
  | true =>
    rw [hon, if_pos rfl] at h
    cases hwhen : redundancy tag name value with
    | never =>
      rw [hwhen, Except.ok.injEq] at h
      simp [← h, Redundancy.holds]
    | always =>
      rw [hwhen, Except.ok.injEq] at h
      simp [← h, Redundancy.holds]
    | without sibling =>
      rw [hwhen] at h
      cases h
    | beside sibling =>
      rw [hwhen] at h
      cases h

theorem fragmentOf_of_saysNothing (h : SaysNothing o tag name value) :
    fragmentOf o tag name value = [] := by
  obtain ⟨hon, hblank, hname⟩ := h
  rw [fragmentOf, isDroppable, isEmptyQuoted_written, if_pos]
  simpa [hon, hblank] using hname

theorem fragmentOf_of_not_saysNothing (h : ¬ SaysNothing o tag name value) :
    fragmentOf o tag name value = keptText o tag name value := by
  rw [fragmentOf, isDroppable, isEmptyQuoted_written, if_neg]
  · simp only [keptText, written, Bool.and_eq_true]
    split
    · rfl
    · split
      · rfl
      · simp
  · simpa [SaysNothing] using h

/-- **The text of an attribute**, where it has one: none if it is dropped, and else what is kept. -/
theorem fragment_eq_ok {a : Attribute} {text : Text} (h : a.fragment o tag = .ok text)
    (names : List Text) :
    (IsDropped o names tag a.name.lower (a.value.getD []) ∧ text = []) ∨
      (¬ IsDropped o names tag a.name.lower (a.value.getD []) ∧
        text = keptText o tag a.name.lower (a.value.getD [])) := by
  rw [fragment] at h
  cases hsuper : isSuperfluous o tag a.name.lower (a.value.getD []) with
  | error fault =>
    rw [hsuper] at h
    cases h
  | ok drop =>
    rw [hsuper] at h
    have hnew := isSuperfluous_eq_ok hsuper names
    cases drop with
    | true => exact .inl ⟨.inl (hnew.1 rfl), (Except.ok.inj h).symm⟩
    | false =>
      have hnot := mt hnew.2 Bool.false_ne_true
      have htext := (Except.ok.inj h).symm
      by_cases hnothing : SaysNothing o tag a.name.lower (a.value.getD [])
      · exact .inl ⟨.inr hnothing, htext.trans (fragmentOf_of_saysNothing hnothing)⟩
      · refine .inr ⟨?_, htext.trans (fragmentOf_of_not_saysNothing hnothing)⟩
        rintro (h | h)
        · exact hnot h
        · exact hnothing h

theorem fragment_eq_nil_iff {a : Attribute} {text : Text} (h : a.fragment o tag = .ok text)
    (names : List Text) :
    text = [] ↔ IsDropped o names tag a.name.lower (a.value.getD []) := by
  rcases fragment_eq_ok h names with ⟨hdrop, rfl⟩ | ⟨hkeep, rfl⟩
  · exact iff_of_true rfl hdrop
  · exact iff_of_false keptText_ne_nil hkeep

/-- Whether an attribute has a text does not depend on its quotes. -/
theorem exists_fragment_unquote {a : Attribute} {text : Text} (h : a.fragment o tag = .ok text)
    (unquote : Bool) :
    ∃ text', a.fragment { o with removeAttributeQuotes := unquote } tag = .ok text' := by
  rw [fragment] at h ⊢
  cases hsuper : isSuperfluous o tag a.name.lower (a.value.getD []) with
  | error fault =>
    rw [hsuper] at h
    cases h
  | ok drop =>
    have hsame : isSuperfluous { o with removeAttributeQuotes := unquote } tag a.name.lower
        (a.value.getD []) = .ok drop := hsuper
    rw [hsame]
    cases drop with
    | true => exact ⟨_, rfl⟩
    | false => exact ⟨_, rfl⟩

end Attribute

/-- **Exact reading of one attribute.**  Where the attribute of a name has a text, the text is empty
exactly if the attribute is dropped, and is that of a kept attribute otherwise.  Whether quotes may
be left away makes no difference to what is dropped. -/
theorem Attributes.fragment_reading {o : Options} {attrs : Attributes} {tag name text : Text}
    (h : attrs.fragment o tag name = .ok text) :
    ∃ a, attrs.get? name = some a ∧
      (text = [] ↔
        Attribute.IsDropped o (attrs.map (·.name)) tag name.lower (a.value.getD [])) ∧
      (¬ Attribute.IsDropped o (attrs.map (·.name)) tag name.lower (a.value.getD []) →
        text = Attribute.keptText o tag name.lower (a.value.getD [])) ∧
      ∀ unquote, ∃ text',
        attrs.fragment { o with removeAttributeQuotes := unquote } tag name = .ok text' ∧
          (text' = [] ↔ text = []) := by
  rw [Attributes.fragment] at h
  cases hget : attrs.get? name with
  | none =>
    rw [hget] at h
    cases h
  | some a =>
    rw [hget] at h
    have hname : a.name = name := by simpa using List.find?_some hget
    subst hname
    have hdropped := Attribute.fragment_eq_nil_iff h (attrs.map (·.name))
    refine ⟨a, rfl, hdropped, fun hkeep => ?_, fun unquote => ?_⟩
    · rcases Attribute.fragment_eq_ok h (attrs.map (·.name)) with ⟨hdrop, -⟩ | ⟨-, htext⟩
      · exact absurd hdrop hkeep
      · exact htext
    · obtain ⟨text', htext'⟩ := Attribute.exists_fragment_unquote h unquote
      refine ⟨text', ?_, ?_⟩
      · rw [Attributes.fragment, hget]
        exact htext'
      · rw [hdropped]
        exact Attribute.fragment_eq_nil_iff htext' (attrs.map (·.name))

/-- A title that is a line feed and no more is dropped. -/
theorem Attributes.fragment_reading_title :
    fragment {} [⟨"id", some "a"⟩, ⟨"Title", some "\n"⟩] "p" "Title" = .ok [] ∧
      Attribute.IsDropped {} ["id", "Title"] "p" "title" "\n" := by
  have h : fragment {} [⟨"id", some "a"⟩, ⟨"Title", some "\n"⟩] "p" "Title" = .ok [] := rfl
  obtain ⟨a, hget, hdrop, -, -⟩ := fragment_reading h
  obtain rfl : ⟨"Title", some "\n"⟩ = a := Option.some.inj hget
  exact ⟨h, hdrop.1 rfl⟩

end PagePress

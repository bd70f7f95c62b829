import Mathlib.Data.List.TakeWhile
import PagePress.Markup.Tag
import PagePress.Proofs.Fragments
import PagePress.Text.Search

/-!
# Attributes that are read back

The text of an attribute is meant to be read again.  A value in quotes ends at the next quote, and a
value without at the next blank or `>`, so it depends on the value what is read.

* `Attribute.read` reads an attribute in this way and no other, and `Markup.attributeValue` is how
  the value is read in a page, where references to characters count as well.
* `Attribute.read_unquoted_iff` says when leaving the quotes away makes a difference: exactly where
  a line feed is let pass behind the last character.
* `Attribute.read_quoted_iff` says when a value in quotes is read as it is: exactly where it holds
  no quote, and in a page where it also holds no reference.
-/

set_option autoImplicit false

namespace PagePress

/-! ## Reading an attribute -/

namespace Attribute

/-- The characters at which the name of an attribute ends. -/
def endsName (c : Char) : Bool := isBlank c || c == '=' || c == '>'

/-- The characters at which a value without quotes ends. -/
def endsValue (c : Char) : Bool := isBlank c || c == '>'

/-- The value that a text starts with, up to the closing quote or up to the first blank or `>`, and
what follows it. -/
def readValue : Text → Text × Text
  | '"' :: t => (t.takeWhile (· != '"'), (t.dropWhile (· != '"')).drop 1)
  | t => (t.takeWhile (!endsValue ·), t.dropWhile (!endsValue ·))

/-- The attribute of a name that the given text follows, and what follows the attribute. -/
def readAfterName (name : Text) : Text → Attribute × Text
  | '=' :: t => (⟨name, some (readValue t).1⟩, (readValue t).2)
  | t => (⟨name, none⟩, t)

/-- The attribute that a text starts with, after blanks, and what follows it. -/
def read (t : Text) : Attribute × Text :=
  let t := Text.stripStart t
  readAfterName (t.takeWhile (!endsName ·)) (t.dropWhile (!endsName ·))

/-- A name is read up to the character at which it ends. -/
theorem read_name {name : Text} (hname : ∀ c ∈ name, endsName c = false) {c : Char}
    (hc : endsName c = true) (hblank : isBlank c = false) (t : Text) :
    read (' ' :: name ++ c :: t) = readAfterName name (c :: t) := by
  have hstrip : Text.stripStart (' ' :: name ++ c :: t) = name ++ c :: t := by
    rw [Text.stripStart, List.cons_append, List.dropWhile_cons_of_pos (by decide)]
    cases name with
    | nil => exact List.dropWhile_cons_of_neg (by simp [hblank])
    | cons d ds =>
      have hd := hname d List.mem_cons_self
      simp only [endsName, Bool.or_eq_false_iff] at hd
      exact List.dropWhile_cons_of_neg (by simp [hd.1.1])
  have hgoes : ∀ d ∈ name, (!endsName d) = true := fun d hd => by rw [hname d hd]; rfl
  have hstops : (!endsName c) = false := by rw [hc]; rfl
  rw [read, hstrip, Text.takeWhile_append_stop hgoes hstops,
    Text.dropWhile_append_stop hgoes hstops]

/-- A value in quotes is read up to the next quote. -/
theorem readValue_quoted_iff {v rest : Text} :
    readValue ('"' :: v ++ '"' :: rest) = (v, rest) ↔ '"' ∉ v := by
  constructor
  · intro h hmem
    have htake : (v ++ '"' :: rest).takeWhile (· != '"') = v := congrArg Prod.fst h
    rw [← htake] at hmem
    exact absurd (List.mem_takeWhile_imp hmem) (by decide)
  · intro hv
    have hgoes := Text.bne_of_not_mem hv
    show ((v ++ '"' :: rest).takeWhile (· != '"'),
      ((v ++ '"' :: rest).dropWhile (· != '"')).drop 1) = (v, rest)
    rw [Text.takeWhile_append_stop hgoes rfl, Text.dropWhile_append_stop hgoes rfl]
    rfl

/-! ## Names in lower case -/

/-- The code points of the characters at which a name ends. -/
def nameEnds : Text.Ranges := [
  (0x09, 0x0D), (0x1C, 0x20), (0x3D, 0x3E), (0x85, 0x85), (0xA0, 0xA0), (0x1680, 0x1680),
  (0x2000, 0x200A), (0x2028, 0x2029), (0x202F, 0x202F), (0x205F, 0x205F), (0x3000, 0x3000)]

theorem endsName_eq_inRanges (c : Char) : endsName c = Text.inRanges nameEnds c := by
  have heq : ∀ d : Char, (c == d) = (c.toNat == d.toNat) := by
    intro d
    rw [Bool.eq_iff_iff, beq_iff_eq, beq_iff_eq]
    exact Char.toNat_inj.symm
  rw [endsName, heq, heq, Bool.eq_iff_iff]
  simp only [isBlank, Text.inRanges, nameEnds, List.any_cons, List.any_nil, Bool.or_eq_true,
    Bool.and_eq_true, decide_eq_true_eq, beq_iff_eq, Bool.or_false]
  have h1 : '='.toNat = 0x3D := rfl
  have h2 : '>'.toNat = 0x3E := rfl
  omega

/-- No lower case in the table is a character at which a name ends. -/
theorem caseRows_apart : ∀ row ∈ Text.caseRows, ∀ r ∈ nameEnds,
    row.lower + (row.last - row.first) < r.1 ∨ r.2 < row.lower := by
  decide +kernel

/-- A number that is that of no character stands for the null character. -/
theorem toNat_ofNat_eq_or (n : Nat) : (Char.ofNat n).toNat = n ∨ (Char.ofNat n).toNat = 0 := by
  delta Char.ofNat
  by_cases h : n.isValidChar
  · rw [dif_pos h]
    exact .inl rfl
  · rw [dif_neg h]
    exact .inr rfl

theorem endsName_ofNat_of_lower? {row : Text.CaseRow} (hrow : row ∈ Text.caseRows) {n m : Nat}
    (h : row.lower? n = some m) : endsName (Char.ofNat m) = false := by
  have hapart := caseRows_apart row hrow
  have hm : row.lower ≤ m ∧ m ≤ row.lower + (row.last - row.first) := by
    rw [Text.CaseRow.lower?] at h
    split at h
    · rename_i hin
      simp only [Bool.and_eq_true, decide_eq_true_eq] at hin
      obtain rfl := Option.some.inj h
      omega
    · cases h
  rw [endsName_eq_inRanges, ← Bool.not_eq_true, Text.inRanges_iff]
  rintro ⟨r, hr, hlow, hhigh⟩
  have hpos : ∀ r ∈ nameEnds, 0 < r.1 := by decide
  have hzero := hpos r hr
  have hlower := hapart r hr
  rcases toNat_ofNat_eq_or m with hnat | hnat
  · omega
  · omega

theorem endsName_of_all {t : Text} (h : t.all (!endsName ·) = true) :
    ∀ c ∈ t, endsName c = false := by
  simpa using h

/-- In lower case, a character makes no new end of a name. -/
theorem endsName_lowerChar {c : Char} (hc : endsName c = false) :
    ∀ d ∈ Text.lowerChar c, endsName d = false := by
  rw [Text.lowerChar]
  split
  · rename_i hascii
    have hall : ∀ n < 0x80, endsName (Char.ofNat n) = false →
        endsName (Char.ofNat n).toLower = false := by
      decide +kernel
    have hlower := hall c.toNat hascii
    rw [Char.ofNat_toNat] at hlower
    simpa using hlower hc
  · split
    · exact endsName_of_all (by decide)
    · intro d hd
      rw [List.mem_singleton] at hd
      subst hd
      cases hfind : Text.caseRows.findSome? (·.lower? c.toNat) with
      | none => exact hc
      | some m =>
        obtain ⟨row, hrow, hm⟩ := List.exists_of_findSome?_eq_some hfind
        exact endsName_ofNat_of_lower? hrow hm

theorem endsName_lowerAfter {name : Text} (hname : ∀ c ∈ name, endsName c = false)
    (inWord : Bool) : ∀ d ∈ Text.lowerAfter inWord name, endsName d = false := by
  induction name generalizing inWord with
  | nil => simp [Text.lowerAfter]
  | cons c cs ih =>
    have hrest := ih fun d hd => hname d (List.mem_cons_of_mem c hd)
    rw [Text.lowerAfter]
    split
    · rintro d (_ | ⟨_, hd⟩)
      · split <;> decide
      · exact hrest _ d hd
    · intro d hd
      rcases List.mem_append.1 hd with hd | hd
      · exact endsName_lowerChar (hname c List.mem_cons_self) d hd
      · exact hrest _ d hd

/-- A name that is read whole is read whole in lower case. -/
theorem endsName_lower {name : Text} (hname : ∀ c ∈ name, endsName c = false) :
    ∀ d ∈ name.lower, endsName d = false := endsName_lowerAfter hname false

/-! ## Values with and without quotes -/

/-- Bare characters behind an equals sign are read up to the first other one. -/
theorem readValue_bare {w : Text} (hne : w ≠ []) (hw : ∀ c ∈ w, isBare c = true) {c : Char}
    (hc : endsValue c = true) (t : Text) : (readValue (w ++ c :: t)).1 = w := by
  have hgoes : ∀ d ∈ w, (!endsValue d) = true := by
    intro d hd
    have hgt : d ≠ '>' := fun h => absurd (h ▸ hw d hd) (by decide)
    rw [endsValue, isBlank_of_isBare (hw d hd), Bool.false_or, beq_eq_false_iff_ne.2 hgt]
    rfl
  have hstops : (!endsValue c) = false := by rw [hc]; rfl
  obtain ⟨d, ds, rfl⟩ := List.exists_cons_of_ne_nil hne
  have hquote : d ≠ '"' := fun h => absurd (h ▸ hw d List.mem_cons_self) (by decide)
  rw [List.cons_append, readValue]
  · exact Text.takeWhile_append_stop hgoes hstops t
  · rintro t' ⟨⟩
    exact hquote rfl

/-- Bare characters, and a line feed behind them. -/
def IsBareLine (v : Text) : Prop :=
  ∃ w, w ≠ [] ∧ (∀ c ∈ w, isBare c = true) ∧ v = w ++ ['\n']

theorem IsBareLine.canUnquote {v : Text} (h : IsBareLine v) : canUnquote v = true := by
  obtain ⟨w, hne, hw, hv⟩ := h
  exact canUnquote_iff.2 ⟨w, hne, hw, .inr hv⟩

theorem read_quoted {name : Text} (hname : ∀ c ∈ name, endsName c = false) {v : Text}
    (hv : '"' ∉ v) (rest : Text) :
    read (' ' :: name ++ ['=', '"'] ++ v ++ ['"'] ++ rest) = (⟨name, some v⟩, rest) := by
  have htext : ' ' :: name ++ ['=', '"'] ++ v ++ ['"'] ++ rest =
      ' ' :: name ++ '=' :: ('"' :: v ++ '"' :: rest) := by
    simp
  rw [htext, read_name hname rfl rfl, readAfterName, readValue_quoted_iff.2 hv]

/-- A value without quotes is read as with them, unless a line feed ends it. -/
theorem read_bare_iff {name : Text} (hname : ∀ c ∈ name, endsName c = false) {v : Text}
    (hv : canUnquote v = true) :
    (read (' ' :: name ++ '=' :: v ++ ['>'])).1 = ⟨name, some v⟩ ↔ ¬ IsBareLine v := by
  have htext : ' ' :: name ++ '=' :: v ++ ['>'] = ' ' :: name ++ '=' :: (v ++ ['>']) := by simp
  rw [htext, read_name hname rfl rfl, readAfterName, Attribute.mk.injEq, Option.some.injEq,
    eq_self, true_and]
  obtain ⟨w, hne, hw, rfl | rfl⟩ := canUnquote_iff.1 hv
  · refine iff_of_true (readValue_bare hne hw rfl []) ?_
    rintro ⟨u, -, -, rfl⟩
    exact absurd (hw '\n' (by simp)) (by decide)
  · refine iff_of_false ?_ fun h => h ⟨w, hne, hw, rfl⟩
    rw [List.append_assoc, List.singleton_append, readValue_bare hne hw rfl]
    simp

theorem not_mem_of_canUnquote {v : Text} (hv : canUnquote v = true) : '"' ∉ v := by
  obtain ⟨w, -, hw, rfl | rfl⟩ := canUnquote_iff.1 hv
  · exact fun h => absurd (hw _ h) (by decide)
  · rw [List.mem_append, List.mem_singleton]
    rintro (h | h)
    · exact absurd (hw _ h) (by decide)
    · cases h

variable {o : Options} {tag : Text}

/-- **Leaving quotes away.**  An attribute is read as the same with and without the quotes exactly
if its cleaned value is not bare characters and a line feed behind them.  Nothing is lost where the
attribute is dropped, or written without its value. -/
theorem read_unquoted_iff {a : Attribute} (hname : ∀ c ∈ a.name, endsName c = false)
    {bare quoted : Text}
    (hbare : a.fragment { o with removeAttributeQuotes := true } tag = .ok bare)
    (hquoted : a.fragment { o with removeAttributeQuotes := false } tag = .ok quoted) :
    (read (bare ++ ['>'])).1 = (read (quoted ++ ['>'])).1 ↔
      quoted = [] ∨ (o.collapseBooleanAttributes = true ∧ isFlag a.name.lower = true) ∨
        ¬ IsBareLine (clean tag a.name.lower (a.value.getD [])) := by
  have hlower := endsName_lower hname
  -- what is dropped does not depend on the quotes
  have hsame : bare = [] ↔ quoted = [] :=
    (fragment_eq_nil_iff hbare []).trans (fragment_eq_nil_iff hquoted []).symm
  rcases fragment_eq_ok hquoted [] with ⟨-, hnil⟩ | ⟨hkeep, hkept⟩
  · rw [hnil, hsame.2 hnil]
    exact iff_of_true rfl (.inl rfl)
  have hne : quoted ≠ [] := hkept ▸ keptText_ne_nil
  obtain ⟨-, hkept'⟩ := (fragment_eq_ok hbare []).resolve_left fun h => hne (hsame.1 h.2)
  rw [keptText] at hkept hkept'
  by_cases hflag : o.collapseBooleanAttributes = true ∧ isFlag a.name.lower = true
  · rw [if_pos hflag] at hkept hkept'
    rw [hkept, hkept']
    exact iff_of_true rfl (.inr (.inl hflag))
  rw [if_neg hflag] at hkept hkept'
  generalize clean tag a.name.lower (a.value.getD []) = v at hkept hkept' ⊢
  rw [if_neg fun h => Bool.false_ne_true h.1] at hkept
  by_cases hv : canUnquote v = true
  · rw [if_pos ⟨rfl, hv⟩] at hkept'
    rw [hkept', hkept, read_quoted hlower (not_mem_of_canUnquote hv), read_bare_iff hlower hv]
    simp [hflag]
  · rw [if_neg fun h => hv h.2] at hkept'
    rw [hkept', hkept]
    exact iff_of_true rfl (.inr (.inr fun h => hv h.canUnquote))

/-- The class of an element loses the line feed in either way. -/
theorem read_unquoted_iff_class :
    let a : Attribute := ⟨"CLASS", some "a\n"⟩
    a.fragment { removeAttributeQuotes := true } "p" = .ok " class=a" ∧
      a.fragment { removeAttributeQuotes := false } "p" = .ok " class=\"a\"" ∧
      (read " class=a>").1 = (read " class=\"a\">").1 := by
  intro a
  have hbare : a.fragment { removeAttributeQuotes := true } "p" = .ok " class=a" := rfl
  have hquoted : a.fragment { removeAttributeQuotes := false } "p" = .ok " class=\"a\"" := rfl
  have hline : ¬ IsBareLine (clean "p" "class" "a\n") := by
    rintro ⟨w, -, -, h⟩
    have hlast := congrArg List.getLast? h
    rw [List.getLast?_concat] at hlast
    exact absurd hlast (by decide)
  have hiff := read_unquoted_iff (o := {}) (endsName_of_all (by decide)) hbare hquoted
  exact ⟨hbare, hquoted, hiff.2 (.inr (.inr hline))⟩

/-- Another attribute keeps the line feed, and loses it without the quotes. -/
theorem read_unquoted_ne :
    let a : Attribute := ⟨"x", some "a\n"⟩
    a.fragment { removeAttributeQuotes := true } "p" = .ok " x=a\n" ∧
      a.fragment { removeAttributeQuotes := false } "p" = .ok " x=\"a\n\"" ∧
      (read (" x=a\n" ++ ['>'])).1 = ⟨"x", some "a"⟩ ∧
      (read (" x=\"a\n\"" ++ ['>'])).1 = ⟨"x", some "a\n"⟩ :=
  ⟨rfl, rfl, by decide, by decide⟩

end Attribute

/-! ## Values in a page -/

namespace Markup

/-- Whether the text behind an ampersand makes it a reference: a number sign, or the name of a
character and a semicolon. -/
def makesReference (t : Text) : Bool :=
  t.head? == some '#' ||
    t.head?.any isNameStart && (namedCharacter? (t.takeWhile isNameChar)).isSome &&
      (t.dropWhile isNameChar).head? == some ';'

/-- Texts that are read in a value as they are: no ampersand makes a reference, and the null
character, at which a value is cut off, does not occur. -/
def IsLiteral (t : Text) : Prop :=
  nullChar ∉ t ∧ ∀ u v, t = u ++ '&' :: v → makesReference v = false

theorem isNameChar_quote : isNameChar '"' = false := by decide +kernel

theorem isNameChar_ampersand : isNameChar '&' = false := by decide +kernel

theorem ne_of_mem_takeWhile {p : Char → Bool} {t : Text} {c d : Char} (hd : p d = false)
    (hc : c ∈ t.takeWhile p) : c ≠ d := by
  rintro rfl
  rw [List.mem_takeWhile_imp hc] at hd
  cases hd

/-- What stands at an ampersand, without the ampersand, against what is read there: the same if it
makes no reference, and less if it does. -/
structure Takes (t taken : Text) : Prop where
  eq : t = taken ++ (reference t).2
  /-- What is taken ends before a quote or another ampersand. -/
  plain : ∀ c ∈ taken, c ≠ '"' ∧ c ≠ '&'
  same : makesReference t = false → (reference t).1.text = '&' :: taken
  less : makesReference t = true → (reference t).1.text.length ≤ taken.length

theorem exists_dropSemicolon (t : Text) : ∃ w, t = w ++ dropSemicolon t ∧ ∀ c ∈ w, c = ';' := by
  fun_cases dropSemicolon t with
  | case1 t => exact ⟨[';'], rfl, by simp⟩
  | case2 => exact ⟨[], rfl, by simp⟩

/-- A reference by number takes the marks before the digits, the digits, and a semicolon. -/
theorem exists_takes_number (lead : Text) {t digits : Text} {base : Nat} {p : Char → Bool}
    (ht : t = '#' :: lead ++ digits) (href : reference t = numberReference base p digits)
    (hlead : ∀ c ∈ lead, c ≠ '"' ∧ c ≠ '&') (hquote : p '"' = false) (hamp : p '&' = false) :
    ∃ taken, Takes t taken := by
  obtain ⟨w, hw, hsemicolon⟩ := exists_dropSemicolon (digits.dropWhile p)
  have hmakes : makesReference t = true := by rw [ht]; rfl
  have hlength : (reference t).1.text.length = 1 := by
    rw [href, numberReference]
    dsimp only
    split <;> rfl
  refine ⟨'#' :: lead ++ digits.takeWhile p ++ w, ?_, ?_, fun h => ?_, fun _ => ?_⟩
  · rw [href, numberReference, List.append_assoc, ← hw, List.append_assoc,
      List.takeWhile_append_dropWhile, ht]
  · intro c hc
    simp only [List.cons_append, List.mem_cons, List.mem_append] at hc
    rcases hc with rfl | (hc | hc) | hc
    · decide
    · exact hlead c hc
    · exact ⟨ne_of_mem_takeWhile hquote hc, ne_of_mem_takeWhile hamp hc⟩
    · rw [hsemicolon c hc]
      decide
  · rw [hmakes] at h
    cases h
  · rw [hlength]
    simp

theorem name?_eq_some {t name rest : Text} (h : name? t = some (name, rest)) :
    t.head?.any isNameStart = true ∧ name = t.takeWhile isNameChar ∧
      rest = t.dropWhile isNameChar := by
  rw [name?] at h
  split at h
  · cases h
  · split at h
    · rename_i hstart
      obtain ⟨rfl, rfl⟩ := Prod.mk.inj (Option.some.inj h)
      exact ⟨hstart, rfl, rfl⟩
    · cases h

/-- A name with a semicolon behind it is one also where only plain characters follow. -/
theorem name?_of_semicolon {t : Text} (hstart : t.head?.any isNameStart = true)
    (hsemicolon : (t.dropWhile isNameChar).head? = some ';') :
    name? t = some (t.takeWhile isNameChar, t.dropWhile isNameChar) := by
  have hgoes : (t.dropWhile isPlainNameChar).isEmpty = false := by
    rw [List.isEmpty_eq_false_iff]
    intro hnil
    have hmem : ';' ∈ t := (List.dropWhile_suffix _).subset (List.mem_of_head? hsemicolon)
    exact absurd (List.dropWhile_eq_nil_iff.1 hnil _ hmem) (by decide)
  rw [name?, hgoes, Bool.and_false, if_neg Bool.false_ne_true, if_pos hstart]

theorem makesReference_of_name {t name rest : Text} (hhash : t.head? ≠ some '#')
    (h : name? t = some (name, rest)) :
    makesReference t = ((namedCharacter? name).isSome && rest.head? == some ';') := by
  obtain ⟨hstart, rfl, rfl⟩ := name?_eq_some h
  rw [makesReference, beq_eq_false_iff_ne.2 hhash, hstart, Bool.false_or, Bool.true_and]

theorem makesReference_of_no_name {t : Text} (hhash : t.head? ≠ some '#') (h : name? t = none) :
    makesReference t = false := by
  rw [makesReference, beq_eq_false_iff_ne.2 hhash, Bool.false_or, ← Bool.not_eq_true]
  simp only [Bool.and_eq_true, beq_iff_eq]
  rintro ⟨⟨hstart, -⟩, hsemicolon⟩
  rw [name?_of_semicolon hstart hsemicolon] at h
  cases h

theorem plain_of_name {t name rest : Text} (h : name? t = some (name, rest)) :
    ∀ c ∈ name, c ≠ '"' ∧ c ≠ '&' := by
  obtain ⟨-, rfl, -⟩ := name?_eq_some h
  exact fun c hc =>
    ⟨ne_of_mem_takeWhile isNameChar_quote hc, ne_of_mem_takeWhile isNameChar_ampersand hc⟩

/-- **What an ampersand takes.** -/
theorem exists_takes (t : Text) : ∃ taken, Takes t taken := by
  have hhead : (∀ cs, t = '#' :: cs → False) → t.head? ≠ some '#' := fun h hhash =>
    (List.head?_eq_some_iff.1 hhash).elim h
  have hsplit : ∀ {name rest}, name? t = some (name, rest) → t = name ++ rest := by
    intro name rest h
    obtain ⟨-, rfl, rfl⟩ := name?_eq_some h
    exact List.takeWhile_append_dropWhile.symm
  fun_cases reference t with
  | case1 digits => exact exists_takes_number ['x'] rfl rfl (by simp) rfl rfl
  | case2 digits => exact exists_takes_number ['X'] rfl rfl (by simp) rfl rfl
  | case3 digits hx hX =>
    have href : reference ('#' :: digits) = numberReference 10 Char.isDigit digits := by
      rw [reference]
      · exact hx
      · exact hX
    exact exists_takes_number [] rfl href (by simp) rfl rfl
  | case4 t hx hX hhash hname =>
    have href : reference t = (.ampersand, t) := by
      rw [reference, hname]
      · exact hx
      · exact hX
      · exact hhash
    have hmakes := makesReference_of_no_name (hhead hhash) hname
    exact ⟨[], by rw [href, List.nil_append], by simp, fun _ => by rw [href]; rfl,
      fun h => absurd (hmakes.symm.trans h) Bool.false_ne_true⟩
  | case5 t hx hX hhash name c rest hchar hname =>
    have href : reference t = (.char c, rest) := by
      rw [reference, hname]
      · dsimp only
        rw [hchar]
        rfl
      · exact hx
      · exact hX
      · exact hhash
    have hmakes : makesReference t = true := by
      rw [makesReference_of_name (hhead hhash) hname, hchar]
      rfl
    have hplain := plain_of_name hname
    refine ⟨name ++ [';'], ?_, ?_, fun h => absurd (h.symm.trans hmakes) Bool.false_ne_true, ?_⟩
    · rw [href, List.append_assoc]
      exact hsplit hname
    · simpa [or_imp, forall_and] using hplain
    · intro _
      rw [href]
      simp [Reference.text]
  | case6 t hx hX hhash name rest hname hword =>
    have href : reference t = (.word name, rest) := by
      rw [reference, hname]
      · dsimp only
        split
        · rename_i hchar
          exact (hword _ _ hchar rfl).elim
        · rfl
      · exact hx
      · exact hX
      · exact hhash
    have hmakes : makesReference t = false := by
      rw [makesReference_of_name (hhead hhash) hname, ← Bool.not_eq_true, Bool.and_eq_true,
        Option.isSome_iff_exists, beq_iff_eq, List.head?_eq_some_iff]
      rintro ⟨⟨c, hchar⟩, cs, hrest⟩
      exact hword c cs hchar hrest
    exact ⟨name, by rw [href]; exact hsplit hname, plain_of_name hname, fun _ => by rw [href]; rfl,
      fun h => absurd (hmakes.symm.trans h) Bool.false_ne_true⟩

/-- Nothing from a quote on makes a reference of an ampersand before it. -/
theorem makesReference_append (t rest : Text) :
    makesReference (t ++ '"' :: rest) = makesReference t := by
  have hstop : ¬ isNameChar '"' = true := by rw [isNameChar_quote]; decide
  have htake : (t ++ '"' :: rest).takeWhile isNameChar = t.takeWhile isNameChar := by
    rw [List.takeWhile_append, List.takeWhile_cons_of_neg hstop]
    split
    · rename_i hall
      rw [List.append_nil, (List.takeWhile_prefix _).eq_of_length hall]
    · rfl
  have hdrop : ((t ++ '"' :: rest).dropWhile isNameChar).head? = some ';' ↔
      (t.dropWhile isNameChar).head? = some ';' := by
    rw [List.dropWhile_append, List.dropWhile_cons_of_neg hstop]
    cases t.dropWhile isNameChar with
    | nil => simp
    | cons d ds => rfl
  rw [makesReference, makesReference, htake, Bool.eq_iff_iff]
  simp only [Bool.or_eq_true, Bool.and_eq_true, beq_iff_eq, hdrop]
  cases t with
  | nil => simp
  | cons c cs => rfl

/-- A character that does not stand in the first text stands in the second. -/
theorem split_of_not_mem {x y u v : Text} {c : Char} (hc : c ∉ x) (h : x ++ y = u ++ c :: v) :
    ∃ w, u = x ++ w ∧ y = w ++ c :: v := by
  rcases List.append_eq_append_iff.1 h with ⟨w, hu, hy⟩ | ⟨w, rfl, hv⟩
  · exact ⟨w, hu, hy⟩
  · cases w with
    | nil => exact ⟨[], by simp, by simpa using hv.symm⟩
    | cons d ds =>
      obtain ⟨rfl, -⟩ := List.cons.inj hv
      exact absurd (by simp) hc

/-! ### Reading a value -/

section Value

variable (rounds : Nat) (t : Text)

theorem valueUntil_ampersand :
    valueUntil (· == '"') (rounds + 1) ('&' :: t) =
      ((reference t).1.text ++ (valueUntil (· == '"') rounds (reference t).2).1,
        (valueUntil (· == '"') rounds (reference t).2).2) := by
  rw [valueUntil]
  rfl

theorem valueUntil_cons {c : Char} (hquote : c ≠ '"') (hnull : c ≠ nullChar) (hamp : c ≠ '&') :
    valueUntil (· == '"') (rounds + 1) (c :: t) =
      (c :: (valueUntil (· == '"') rounds t).1, (valueUntil (· == '"') rounds t).2) := by
  rw [valueUntil, if_neg (by simp [hquote, hnull]), if_neg (by simpa using hamp)]

theorem valueUntil_stop {c : Char} (h : c = '"' ∨ c = nullChar) :
    valueUntil (· == '"') (rounds + 1) (c :: t) = ([], c :: t) := by
  rw [valueUntil, if_pos (by simpa using h)]

end Value

theorem IsLiteral.of_append {u v : Text} (h : IsLiteral (u ++ v)) : IsLiteral v :=
  ⟨fun hnull => h.1 (List.mem_append_right u hnull),
    fun x y hv => h.2 (u ++ x) y (by rw [hv, List.append_assoc])⟩

/-- A literal text is read up to the quote. -/
theorem valueUntil_literal {rounds : Nat} {v : Text} (hquote : '"' ∉ v) (hv : IsLiteral v)
    (hrounds : v.length < rounds) (rest : Text) :
    valueUntil (· == '"') rounds (v ++ '"' :: rest) = (v, '"' :: rest) := by
  induction rounds generalizing v with
  | zero => omega
  | succ rounds ih =>
    cases v with
    | nil => exact valueUntil_stop _ _ (.inl rfl)
    | cons c cs =>
      have hcs : IsLiteral cs := hv.of_append (u := [c])
      rw [List.mem_cons, not_or] at hquote
      rw [List.length_cons] at hrounds
      by_cases hamp : c = '&'
      · subst hamp
        obtain ⟨taken, htaken⟩ := exists_takes (cs ++ '"' :: rest)
        have hmakes : makesReference (cs ++ '"' :: rest) = false := by
          rw [makesReference_append]
          exact hv.2 [] cs rfl
        -- what is taken ends before the quote
        obtain ⟨ds, hcs', hrest⟩ :=
          split_of_not_mem (fun hmem => (htaken.plain _ hmem).1 rfl) htaken.eq.symm
        rw [List.cons_append, valueUntil_ampersand, htaken.same hmakes, hrest,
          ih (v := ds) ?_ ?_ ?_]
        · rw [hcs']
          rfl
        · exact fun h => hquote.2 (hcs' ▸ List.mem_append_right taken h)
        · exact (hcs' ▸ hcs).of_append
        · have := congrArg List.length hcs'
          rw [List.length_append] at this
          omega
      · have hnull : c ≠ nullChar := fun h => hv.1 (h ▸ List.mem_cons_self)
        rw [List.cons_append, valueUntil_cons _ _ (Ne.symm hquote.1) hnull hamp,
          ih hquote.2 hcs (by omega)]

/-- The part of a text before its first quote. -/
def beforeQuote (t : Text) : Text := t.takeWhile (· != '"')

theorem beforeQuote_append {u : Text} (hu : '"' ∉ u) (t : Text) :
    beforeQuote (u ++ t) = u ++ beforeQuote t :=
  List.takeWhile_append_of_pos (Text.bne_of_not_mem hu)

theorem makesReference_beforeQuote (t : Text) :
    makesReference (beforeQuote t) = makesReference t := by
  have hsplit := List.takeWhile_append_dropWhile (p := (· != '"')) (l := t)
  cases hrest : t.dropWhile (· != '"') with
  | nil => rw [hrest, List.append_nil] at hsplit; rw [beforeQuote, hsplit]
  | cons c cs =>
    have hc := List.head?_dropWhile_not (· != '"') t
    rw [hrest] at hc
    obtain rfl : c = '"' := by simpa using hc
    rw [hrest] at hsplit
    rw [← makesReference_append (beforeQuote t) cs, beforeQuote, hsplit]

/-- What is read of a text is no longer than the text, and where it is as long, no ampersand of the
text makes a reference. -/
structure Within (value t : Text) : Prop where
  le : value.length ≤ t.length
  literal : value.length = t.length → ∀ u v, t = u ++ '&' :: v → makesReference v = false

namespace Within

variable {value t : Text}

theorem nil (t : Text) : Within [] t where
  le := Nat.zero_le _
  literal h u v huv := by
    rw [List.eq_nil_of_length_eq_zero h.symm] at huv
    simp at huv

theorem cons {c : Char} (hc : c ≠ '&') (h : Within value t) : Within (c :: value) (c :: t) where
  le := Nat.succ_le_succ h.le
  literal hlength u v huv := by
    cases u with
    | nil => exact absurd (List.cons.inj huv).1 hc
    | cons d ds => exact h.literal (Nat.succ.inj hlength) ds v (List.cons.inj huv).2

theorem ampersand {taken : Text} (htaken : Takes t taken)
    (h : Within value (beforeQuote (reference t).2)) :
    Within ((reference t).1.text ++ value) ('&' :: beforeQuote t) := by
  have hle := h.le
  have hbefore : beforeQuote t = taken ++ beforeQuote (reference t).2 := by
    rw [← beforeQuote_append fun hmem => (htaken.plain _ hmem).1 rfl, ← htaken.eq]
  have hlength : ('&' :: beforeQuote t).length =
      taken.length + 1 + (beforeQuote (reference t).2).length := by
    rw [hbefore, List.length_cons, List.length_append]
    omega
  cases hmakes : makesReference t with
  | true =>
    -- a reference is read as less than what stands there
    have hless := htaken.less hmakes
    have hlt : ((reference t).1.text ++ value).length < ('&' :: beforeQuote t).length := by
      rw [hlength, List.length_append]
      omega
    exact ⟨hlt.le, fun heq => absurd heq hlt.ne⟩
  | false =>
    rw [htaken.same hmakes]
    refine ⟨?_, fun heq u v huv => ?_⟩
    · rw [hlength, List.length_append, List.length_cons]
      omega
    · rw [hlength, List.length_append, List.length_cons] at heq
      cases u with
      | nil => rw [← (List.cons.inj huv).2, makesReference_beforeQuote, hmakes]
      | cons d ds =>
        obtain ⟨w, -, hw⟩ := split_of_not_mem (fun hmem => (htaken.plain _ hmem).2 rfl)
          (hbefore.symm.trans (List.cons.inj huv).2)
        exact h.literal (by omega) w v hw

end Within

/-- Of a text before a quote no more is read than stands there. -/
theorem within_valueUntil (rounds : Nat) (t : Text) :
    Within (valueUntil (· == '"') rounds t).1 (beforeQuote t) := by
  induction rounds generalizing t with
  | zero => exact .nil _
  | succ rounds ih =>
    cases t with
    | nil => exact .nil _
    | cons c t =>
      by_cases hstop : c = '"' ∨ c = nullChar
      · rw [valueUntil_stop _ _ hstop]
        exact .nil _
      rw [not_or] at hstop
      have hbefore : beforeQuote (c :: t) = c :: beforeQuote t :=
        beforeQuote_append (u := [c]) (by simpa using Ne.symm hstop.1) t
      rw [hbefore]
      by_cases hamp : c = '&'
      · subst hamp
        obtain ⟨taken, htaken⟩ := exists_takes t
        rw [valueUntil_ampersand]
        exact .ampersand htaken (ih _)
      · rw [valueUntil_cons _ _ hstop.1 hstop.2 hamp]
        exact .cons hamp (ih t)

/-- **A value in quotes, in a page,** is read as it is exactly if it has no quote and is literal. -/
theorem attributeValue_quoted_iff {v rest : Text} :
    attributeValue ('"' :: v ++ '"' :: rest) = (v, rest) ↔ '"' ∉ v ∧ IsLiteral v := by
  have hread : attributeValue ('"' :: v ++ '"' :: rest) =
      ((quotedValue '"' (v ++ '"' :: rest)).1.takeWhile (· != nullChar),
        (quotedValue '"' (v ++ '"' :: rest)).2) := rfl
  rw [hread, quotedValue]
  constructor
  · intro h
    obtain ⟨hle, heq⟩ := within_valueUntil (v ++ '"' :: rest).length (v ++ '"' :: rest)
    generalize valueUntil (· == '"') (v ++ '"' :: rest).length (v ++ '"' :: rest) = r at h hle heq
    obtain ⟨value, after⟩ := r
    have hv : value.takeWhile (· != nullChar) = v := congrArg Prod.fst h
    have hlength : v.length ≤ value.length := hv ▸ (List.takeWhile_prefix _).length_le
    -- as much is read as stands before the first quote, so there is none
    have hbefore : v <+: beforeQuote (v ++ '"' :: rest) :=
      List.prefix_of_prefix_length_le (List.prefix_append _ _) (List.takeWhile_prefix _)
        (Nat.le_trans hlength hle)
    have hquote : '"' ∉ v := fun hmem =>
      absurd (List.mem_takeWhile_imp (hbefore.subset hmem)) (by decide)
    have hall : beforeQuote (v ++ '"' :: rest) = v := by
      rw [beforeQuote_append hquote]
      exact List.append_nil v
    rw [hall] at hle heq
    refine ⟨hquote, fun hnull => ?_, heq (Nat.le_antisymm hle hlength)⟩
    rw [← hv] at hnull
    exact absurd (List.mem_takeWhile_imp hnull) (by decide)
  · rintro ⟨hquote, hv⟩
    have hrounds : v.length < (v ++ '"' :: rest).length := by simp
    rw [valueUntil_literal hquote hv hrounds]
    have hkeep : v.takeWhile (· != nullChar) = v :=
      List.takeWhile_eq_self_iff.2 fun c hc => bne_iff_ne.2 fun h => hv.1 (h ▸ hc)
    exact Prod.ext hkeep rfl

end Markup

namespace Attribute

variable {o : Options} {tag : Text}

/-- **Breaking out of an attribute.**  A value that is written in quotes is read up to the last
quote, as it is, exactly if the cleaned value has no quote in it.  Otherwise it is read up to its
first quote, and what stands behind that is outside of the value.  In a page, where references are
read as well, the value has to be literal besides. -/
theorem read_quoted_iff {a : Attribute} {body : Text} (ho : o.removeAttributeQuotes = false)
    (h : a.fragment o tag = .ok (' ' :: a.name.lower ++ ['=', '"'] ++ body)) (rest : Text) :
    let v := clean tag a.name.lower (a.value.getD [])
    (readValue ('"' :: body ++ rest) = (v, rest) ↔ '"' ∉ v) ∧
      (∀ u w, v = u ++ '"' :: w → '"' ∉ u →
        readValue ('"' :: body ++ rest) = (u, w ++ '"' :: rest)) ∧
      (Markup.attributeValue ('"' :: body ++ rest) = (v, rest) ↔
        '"' ∉ v ∧ Markup.IsLiteral v) := by
  intro v
  obtain rfl : body = v ++ ['"'] := by
    obtain ⟨-, hkept⟩ := (fragment_eq_ok h []).resolve_left fun hdrop => by simpa using hdrop.2
    rw [keptText] at hkept
    split at hkept
    · exact absurd (congrArg List.length hkept) (by simp)
    · rw [if_neg fun hbare => Bool.false_ne_true (ho.symm.trans hbare.1)] at hkept
      simpa using hkept
  have htext : '"' :: (v ++ ['"']) ++ rest = '"' :: v ++ '"' :: rest := by simp
  rw [htext]
  refine ⟨readValue_quoted_iff, fun u w hv hu => ?_, Markup.attributeValue_quoted_iff⟩
  have hfirst : '"' :: v ++ '"' :: rest = '"' :: u ++ '"' :: (w ++ '"' :: rest) := by simp [hv]
  rw [hfirst]
  exact readValue_quoted_iff.2 hu

/-- A title with an ampersand that makes no reference is read as it is. -/
theorem read_quoted_iff_title :
    let o : Options := { removeAttributeQuotes := false }
    let a : Attribute := ⟨"Title", some "a & b"⟩
    a.fragment o "p" = .ok " title=\"a & b\"" ∧
      readValue "\"a & b\">" = (("a & b" : Text), (">" : Text)) ∧ Markup.IsLiteral "a & b" := by
  intro o a
  have h : a.fragment o "p" = .ok (' ' :: a.name.lower ++ ['=', '"'] ++ "a & b\"") := rfl
  obtain ⟨hvalue, -, hpage⟩ := read_quoted_iff rfl h ">"
  exact ⟨h, hvalue.2 (by decide), (hpage.1 rfl).2⟩

/-- A title with quotes in it brings an event handler into the tag. -/
theorem read_quoted_handler :
    let a : Attribute := ⟨"title", some "a\" onclick=\"b"⟩
    a.fragment { removeAttributeQuotes := false } "p" = .ok " title=\"a\" onclick=\"b\"" ∧
      clean "p" "title" "a\" onclick=\"b" = "a\" onclick=\"b" ∧
      readValue "\"a\" onclick=\"b\"" = (("a" : Text), (" onclick=\"b\"" : Text)) ∧
      Markup.readAttributes 3 [] " title=\"a\" onclick=\"b\">" =
        (([⟨"title", some "a"⟩, ⟨"onclick", some "b"⟩] : Attributes), (">" : Text)) :=
  ⟨rfl, by decide, by decide, by decide +kernel⟩

end Attribute

end PagePress

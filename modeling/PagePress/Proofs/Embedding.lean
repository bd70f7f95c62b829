import Mathlib.Data.List.TakeWhile
import PagePress.Bundle.Style
import PagePress.Proofs.Cells

/-!
# Embedded files

A stylesheet refers to files, and `embed` puts their data addresses in: for one reference after the
other, everywhere where its address stands.  What is wanted is that every address is replaced where
it is referred to, and nowhere else.  `Readdressed` says so in terms of what a reference is
(`IsReference`), and without a word about how references are found.

* `isStamp_dataAddress` counts the marks of a data address.  Its two quotes are marks, and there are
  no others: media types, whatever a system knows of them, and base 64 have none.
* `exists_isReference` and `IsReference.addressAt?_eq` say that what is found are the references,
  and `exists_sheet` cuts a stylesheet into the cells of a `Text.Sheet`.
* `embed_readdressed_iff` is the answer.  Embedding readdresses a stylesheet as wanted exactly if
  every address, when its turn comes, stands nowhere but in the references to it.
-/

set_option autoImplicit false

namespace PagePress

/-! ## Data addresses -/

namespace Path

theorem exists_of_isAbsolute {p : Text} (h : isAbsolute p = true) : ∃ rest, p = '/' :: rest := by
  cases p with
  | nil => cases h
  | cons c cs => exact ⟨cs, by simpa [isAbsolute] using h⟩

theorem isAbsolute_join {dir : Text} (h : isAbsolute dir = true) (p : Text) :
    isAbsolute (join dir p) = true := by
  obtain ⟨rest, rfl⟩ := exists_of_isAbsolute h
  rw [join]
  split
  · assumption
  · split <;> rfl

theorem isAbsolute_normal {p : Text} (h : isAbsolute p = true) : isAbsolute (normal p) = true := by
  obtain ⟨rest, rfl⟩ := exists_of_isAbsolute h
  obtain ⟨n, hn⟩ : ∃ n, rootSlashes ('/' :: rest) = n + 1 := by
    rw [rootSlashes]
    split
    · rename_i hlength
      exact absurd hlength (by simp)
    · exact ⟨1, rfl⟩
    · exact ⟨0, rfl⟩
  rw [normal, hn]
  rfl

end Path

theorem Disk.isAbsolute_resolve {d : Disk} (h : Path.isAbsolute d.cwd = true) (dir address : Text) :
    Path.isAbsolute (d.resolve dir address) = true := by
  unfold resolve
  split <;> exact Path.isAbsolute_normal (Path.isAbsolute_join h _)

theorem Base64.isMark_digit (n : Nat) : Text.isMark (digit n) = false := by
  by_cases h : n < 62
  · have hall : ∀ n < 62, Text.isMark (digit n) = false := by decide
    exact hall n h
  · rw [digit, if_neg (by omega), if_neg (by omega), if_neg h]
    split <;> rfl

theorem Base64.unmarked_encode (bytes : Utf8.Bytes) : Text.Unmarked (encode bytes) := by
  have heq : Text.isMark '=' = false := rfl
  fun_induction encode bytes with
  | case1 => simp [Text.Unmarked]
  | case2 a => simp [Text.Unmarked, isMark_digit, heq]
  | case3 a b => simp [Text.Unmarked, isMark_digit, heq]
  | case4 a b c rest ih =>
    simp only [Text.Unmarked, List.forall_mem_cons, isMark_digit, true_and]
    exact ih

namespace MediaType

/-- The characters of media types are no marks, and no colons. -/
theorem isTypeChar_plain {c : Char} (h : isTypeChar c = true) :
    Text.isMark c = false ∧ (c == ':') = false := by
  constructor
  · by_contra hmark
    rw [Bool.not_eq_false, Text.isMark, Bool.or_eq_true, Bool.or_eq_true, beq_iff_eq, beq_iff_eq,
      beq_iff_eq] at hmark
    rcases hmark with (rfl | rfl) | rfl <;> exact absurd h (by decide)
  · rw [beq_eq_false_iff_ne]
    rintro rfl
    exact absurd h (by decide)

theorem isTypeChar_ofPath? (r : Registry) (path : Text) :
    ((ofPath? r path).getD "None").all isTypeChar = true := by
  cases hpath : ofPath? r path with
  | none => decide
  | some mediaType =>
    simp only [ofPath?] at hpath
    split at hpath
    · obtain ⟨named, hnamed, rfl⟩ := Option.map_eq_some_iff.1 hpath
      obtain ⟨l₁, l₂, htypes, -⟩ := List.lookup_eq_some_iff.1 hnamed
      have hmem : (_, named) ∈ r.types := htypes ▸ List.mem_append_right l₁ List.mem_cons_self
      exact r.isTypeChar_of_mem _ hmem
    · cases hpath

/-- A name that starts at the root has no scheme. -/
theorem ofName?_of_isAbsolute (r : Registry) {name : Text} (h : Path.isAbsolute name = true) :
    ofName? r name = ofPath? r name := by
  obtain ⟨rest, rfl⟩ := Path.exists_of_isAbsolute h
  rfl

end MediaType

namespace Bundle

open Text (isMark Unmarked IsAddress IsStamp Sheet)

/-- What stands before the quotes of a data address. -/
def dataLead (types : MediaType.Registry) (name : Text) : Text :=
  ("data" : Text) ++ ':' :: ((MediaType.ofName? types name).getD "None" ++ ";base64,b")

theorem dataAddress_eq (types : MediaType.Registry) (name : Text) (bytes : Utf8.Bytes) :
    dataAddress types name bytes
      = dataLead types name ++ '\'' :: (Base64.encode bytes ++ ['\'']) := by
  have hscheme : ("data:" : Text) = ("data" : Text) ++ [':'] := by decide
  have hcoding : (";base64,b'" : Text) = (";base64,b" : Text) ++ ['\''] := by decide
  have hquote : ("'" : Text) = ['\''] := by decide
  delta dataAddress dataLead
  rw [hscheme, hcoding, hquote]
  simp only [List.append_assoc, List.cons_append, List.nil_append]

section Lead

variable {types : MediaType.Registry} {name name' : Text} (hname : Path.isAbsolute name = true)
include hname

theorem plain_mediaType : ∀ c ∈ (MediaType.ofName? types name).getD "None" ++ ";base64,b",
    isMark c = false ∧ (c == ':') = false := by
  have hcoding : (";base64,b" : Text).all (fun c => !isMark c && !c == ':') = true := by decide
  have hmediaType := List.all_eq_true.1 (MediaType.isTypeChar_ofPath? types name)
  rw [MediaType.ofName?_of_isAbsolute types hname, List.forall_mem_append]
  refine ⟨fun c hc => MediaType.isTypeChar_plain (hmediaType c hc), fun c hc => ?_⟩
  simpa only [Bool.and_eq_true, Bool.not_eq_true'] using List.all_eq_true.1 hcoding c hc

theorem unmarked_dataLead : Unmarked (dataLead types name) :=
  Text.unmarked_append.2 ⟨by decide, Text.unmarked_cons.2
    ⟨rfl, fun c hc => (plain_mediaType hname c hc).1⟩⟩

theorem countP_dataLead (u : Text) :
    (u ++ dataLead types name).countP (· == ':') = (u ++ "data").countP (· == ':') + 1 := by
  have hrest : ((MediaType.ofName? types name).getD "None" ++ ";base64,b").countP (· == ':') = 0 :=
    List.countP_eq_zero.2 fun c hc => by simp [(plain_mediaType hname c hc).2]
  delta dataLead
  rw [← List.append_assoc, List.countP_append, List.countP_cons_of_pos (by rfl), hrest]

/-- A data address can start at one place only: before the last colon ahead of its quotes. -/
theorem append_dataLead_inj (hname' : Path.isAbsolute name' = true) {u v : Text}
    (h : u ++ dataLead types name = v ++ dataLead types name') : u = v := by
  have hcount := congrArg (List.countP (· == ':')) h
  rw [countP_dataLead hname, countP_dataLead hname'] at hcount
  delta dataLead at h
  rw [← List.append_assoc, ← List.append_assoc] at h
  exact List.append_cancel_right
    (Text.append_cons_inj_of_countP (p := (· == ':')) (by rfl) (by omega) h).1

end Lead

/-- **Data addresses as stamps.**  The data address of a file has its two quotes for marks, and
there is one place where it can start. -/
theorem isStamp_dataAddress (types : MediaType.Registry) {name : Text → Text}
    (hname : ∀ a, Path.isAbsolute (name a) = true) (bytes : Text → Utf8.Bytes) :
    IsStamp fun a => dataAddress types (name a) (bytes a) := by
  have hquote : isMark '\'' = true := rfl
  simp only [dataAddress_eq]
  refine ⟨fun a => ?_, fun a => ?_, fun {u v a b} hu hv heq => ?_⟩
  · simp only [Text.marks_append, Text.marks_cons_of_isMark hquote,
      Text.marks_eq_zero_iff.2 (unmarked_dataLead (hname a)),
      Text.marks_eq_zero_iff.2 (Base64.unmarked_encode (bytes a))]
    rfl
  · refine ⟨'\'', List.getLast?_eq_some_iff.2 ?_, hquote⟩
    exact ⟨dataLead types (name a) ++ '\'' :: Base64.encode (bytes a), by simp⟩
  · have hcount : Text.marks (u ++ dataLead types (name a))
        = Text.marks (v ++ dataLead types (name b)) := by
      rw [Text.marks_eq_zero_iff.2 (Text.unmarked_append.2 ⟨hu, unmarked_dataLead (hname a)⟩),
        Text.marks_eq_zero_iff.2 (Text.unmarked_append.2 ⟨hv, unmarked_dataLead (hname b)⟩)]
    rw [← List.append_assoc, ← List.append_assoc] at heq
    exact append_dataLead_inj (hname a) (hname b)
      (Text.append_cons_inj_of_countP hquote hcount heq).1

/-! ## References -/

/-- A quote, or none. -/
def IsQuote (q : Text) : Prop := q = [] ∨ q = ['"'] ∨ q = ['\'']

/-- A reference in its parts: what stands before the address, the address, and what stands behind
it. -/
structure IsReference (front address back : Text) : Prop where
  front_eq : ∃ word quote, front = word ++ quote ∧ Text.dropCaseless? "url(" word = some [] ∧
    IsQuote quote
  isAddress : IsAddress address
  back_eq : ∃ quote, back = quote ++ [')'] ∧ IsQuote quote

/-- An address needs no quotes. -/
theorem isReference_of_isAddress {a : Text} (ha : IsAddress a) : IsReference "url(" a ")" :=
  ⟨⟨"url(", [], by decide, by decide, .inl rfl⟩, ha, ⟨[], by decide, .inl rfl⟩⟩

/-- The text `u` is `t` with `f a` for every address `a` that it refers to, and all else as it was.
References are found from left to right. -/
inductive Readdressed (f : Text → Text) : Text → Text → Prop where
  | nil : Readdressed f [] []
  | char {c : Char} {t u : Text}
      (h : ∀ front a back rest, IsReference front a back → c :: t ≠ front ++ (a ++ (back ++ rest)))
      (rest : Readdressed f t u) : Readdressed f (c :: t) (c :: u)
  | reference {front a back t u : Text} (h : IsReference front a back) (rest : Readdressed f t u) :
      Readdressed f (front ++ (a ++ (back ++ t))) (front ++ (f a ++ (back ++ u)))

/-- The text without a quote it starts with. -/
def dropQuote (t : Text) : Text :=
  if t.head?.any fun c => c == '"' || c == '\'' then t.drop 1 else t

theorem exists_dropQuote (t : Text) : ∃ quote, IsQuote quote ∧ t = quote ++ dropQuote t := by
  rw [dropQuote]
  split
  · rename_i hquote
    cases t with
    | nil => exact absurd hquote (by decide)
    | cons c cs => exact ⟨[c], by simpa [IsQuote] using hquote, rfl⟩
  · exact ⟨[], .inl rfl, rfl⟩

theorem dropQuote_append {quote : Text} (hquote : IsQuote quote) {c : Char}
    (hc : (c == '"' || c == '\'') = false) (t : Text) : dropQuote (quote ++ c :: t) = c :: t := by
  rcases hquote with rfl | rfl | rfl
  · rw [List.nil_append, dropQuote, List.head?_cons, Option.any_some, hc]
    rfl
  · rfl
  · rfl

theorem dropCaseless?_eq_some_iff {p t rest : Text} : Text.dropCaseless? p t = some rest ↔
    ∃ word, t = word ++ rest ∧ Text.dropCaseless? p word = some [] := by
  induction p generalizing t with
  | nil =>
    constructor
    · intro h
      exact ⟨[], Option.some.inj h, rfl⟩
    · rintro ⟨word, rfl, hword⟩
      rw [Option.some.inj hword, List.nil_append, Text.dropCaseless?]
  | cons p ps ih =>
    constructor
    · intro h
      cases t with
      | nil => cases h
      | cons c cs =>
        rw [Text.dropCaseless?, Option.ite_none_right_eq_some] at h
        obtain ⟨word, rfl, hword⟩ := ih.1 h.2
        exact ⟨c :: word, rfl, by rw [Text.dropCaseless?, if_pos h.1, hword]⟩
    · rintro ⟨word, rfl, hword⟩
      cases word with
      | nil => cases hword
      | cons c cs =>
        rw [Text.dropCaseless?, Option.ite_none_right_eq_some] at hword
        rw [List.cons_append, Text.dropCaseless?, if_pos hword.1]
        exact ih.2 ⟨cs, rfl, hword.2⟩

/-- The parts of `addressAt?` in the words of marks. -/
theorem addressAt?_eq (t : Text) : addressAt? t =
    ((Text.dropCaseless? "url(" t).map dropQuote).bind fun body =>
      (Text.after? ")" (dropQuote (body.dropWhile (!isMark ·)))).bind fun rest =>
        if (body.takeWhile (!isMark ·)).isEmpty then none
        else some (body.takeWhile (!isMark ·), t.length - rest.length) := by
  have hplain : (fun c : Char => c != ')' && !(c == '"' || c == '\'')) = (!isMark ·) := by
    funext c
    simp [isMark, bne, Bool.and_assoc]
  delta addressAt?
  simp only [hplain]
  cases Text.dropCaseless? "url(" t <;> rfl

namespace IsReference

variable {front a back : Text} (h : IsReference front a back)
include h

theorem dropCaseless?_front (t : Text) :
    (Text.dropCaseless? "url(" (front ++ (a ++ t))).map dropQuote = some (a ++ t) := by
  obtain ⟨word, quote, rfl, hword, hquote⟩ := h.front_eq
  obtain ⟨c, cs, hac⟩ := List.exists_cons_of_ne_nil h.isAddress.1
  have hc : isMark c = false := h.isAddress.2 c (by rw [hac]; exact List.mem_cons_self)
  have hnot : (c == '"' || c == '\'') = false := by
    simp only [isMark, Bool.or_assoc, Bool.or_eq_false_iff] at hc ⊢
    exact hc.2
  rw [List.append_assoc, dropCaseless?_eq_some_iff.2 ⟨word, rfl, hword⟩, Option.map_some, hac,
    List.cons_append, dropQuote_append hquote hnot]

theorem exists_cons : ∃ c cs, front = c :: cs := by
  obtain ⟨word, quote, rfl, hword, -⟩ := h.front_eq
  cases word with
  | nil => cases hword
  | cons c cs => exact ⟨c, cs ++ quote, rfl⟩

theorem exists_mark : ∃ m back', isMark m = true ∧ back = m :: back' := by
  obtain ⟨quote, rfl, rfl | rfl | rfl⟩ := h.back_eq
  · exact ⟨')', [], rfl, rfl⟩
  · exact ⟨'"', [')'], rfl, rfl⟩
  · exact ⟨'\'', [')'], rfl, rfl⟩

theorem takeWhile_eq (t : Text) : (a ++ (back ++ t)).takeWhile (!isMark ·) = a := by
  obtain ⟨m, back', hm, rfl⟩ := h.exists_mark
  rw [List.takeWhile_append_of_pos fun c hc => by rw [h.isAddress.2 c hc]; rfl, List.cons_append,
    List.takeWhile_cons_of_neg (by simp [hm]), List.append_nil]

theorem dropWhile_eq (t : Text) : (a ++ (back ++ t)).dropWhile (!isMark ·) = back ++ t := by
  obtain ⟨m, back', hm, rfl⟩ := h.exists_mark
  rw [List.dropWhile_append_of_pos fun c hc => by rw [h.isAddress.2 c hc]; rfl, List.cons_append,
    List.dropWhile_cons_of_neg (by simp [hm])]

theorem dropQuote_back (t : Text) : dropQuote (back ++ t) = ')' :: t := by
  obtain ⟨quote, rfl, hquote⟩ := h.back_eq
  rw [List.append_assoc, List.singleton_append]
  exact dropQuote_append hquote (by decide) t

/-- A text starts with one reference at most. -/
theorem unique {front' a' back' t t' : Text} (h' : IsReference front' a' back')
    (heq : front ++ (a ++ (back ++ t)) = front' ++ (a' ++ (back' ++ t'))) :
    front = front' ∧ a = a' ∧ back = back' ∧ t = t' := by
  have hbody := h.dropCaseless?_front (back ++ t)
  rw [heq, h'.dropCaseless?_front, Option.some.injEq] at hbody
  rw [hbody] at heq
  have ha : a = a' := by rw [← h.takeWhile_eq t, ← h'.takeWhile_eq t', hbody]
  have hback : back' ++ t' = back ++ t := by rw [← h.dropWhile_eq t, ← h'.dropWhile_eq t', hbody]
  have ht : ')' :: t' = ')' :: t := by rw [← h.dropQuote_back t, ← h'.dropQuote_back t', hback]
  obtain rfl := (List.cons.inj ht).2
  exact ⟨List.append_cancel_right heq, ha, (List.append_cancel_right hback).symm, rfl⟩

/-- A reference is found where it stands. -/
theorem addressAt?_eq (t : Text) : addressAt? (front ++ (a ++ (back ++ t))) =
    some (a, front.length + a.length + back.length) := by
  have hafter : Text.after? ")" (')' :: t) = some t := Text.after?_eq_some_iff.2 rfl
  have hne : ¬ a.isEmpty = true := by simpa using h.isAddress.1
  rw [Bundle.addressAt?_eq, h.dropCaseless?_front, Option.bind_some, h.takeWhile_eq, h.dropWhile_eq,
    h.dropQuote_back, hafter, Option.bind_some, if_neg hne]
  simp only [List.length_append, Option.some.injEq, Prod.mk.injEq, true_and]
  omega

end IsReference

/-- What is found is a reference. -/
theorem exists_isReference {t a : Text} {n : Nat} (h : addressAt? t = some (a, n)) :
    ∃ front back rest, IsReference front a back ∧ t = front ++ (a ++ (back ++ rest)) := by
  rw [addressAt?_eq] at h
  obtain ⟨body, hbody, h⟩ := Option.bind_eq_some_iff.1 h
  obtain ⟨rest, hrest, h⟩ := Option.bind_eq_some_iff.1 h
  rw [Option.ite_none_left_eq_some, Option.some.injEq, Prod.mk.injEq] at h
  obtain ⟨hne, rfl, -⟩ := h
  obtain ⟨quoted, hquoted, rfl⟩ := Option.map_eq_some_iff.1 hbody
  obtain ⟨word, rfl, hword⟩ := dropCaseless?_eq_some_iff.1 hquoted
  obtain ⟨quote, hquote, hbody⟩ := exists_dropQuote quoted
  obtain ⟨quote', hquote', hclose⟩ := exists_dropQuote ((dropQuote quoted).dropWhile (!isMark ·))
  have hparen : dropQuote ((dropQuote quoted).dropWhile (!isMark ·)) = [')'] ++ rest :=
    Text.after?_eq_some_iff.1 hrest
  refine ⟨word ++ quote, quote' ++ [')'], rest, ⟨⟨word, quote, rfl, hword, hquote⟩, ⟨?_, ?_⟩,
    quote', rfl, hquote'⟩, ?_⟩
  · simpa using hne
  · intro c hc
    simpa using List.mem_takeWhile_imp hc
  · rw [List.append_assoc quote', ← hparen, ← hclose, List.takeWhile_append_dropWhile,
      List.append_assoc, ← hbody]

/-! ## Stylesheets as sheets -/

theorem addressesAfter_eq_drop (n : Nat) (t : Text) :
    addressesAfter n t = addresses (t.drop n) := by
  induction n generalizing t with
  | zero => rfl
  | succ n ih =>
    cases t with
    | nil => rfl
    | cons c cs => exact ih cs

theorem addresses_cons {c : Char} {cs : Text} (h : addressAt? (c :: cs) = none) :
    addresses (c :: cs) = addresses cs := by
  rw [addresses, addressesAfter, h]
  rfl

theorem IsReference.addresses_eq {front a back : Text} (h : IsReference front a back) (t : Text) :
    addresses (front ++ (a ++ (back ++ t))) = a :: addresses t := by
  have hat := h.addressAt?_eq t
  obtain ⟨c, cs, rfl⟩ := h.exists_cons
  have hparts : cs ++ (a ++ (back ++ t)) = (cs ++ (a ++ back)) ++ t := by
    simp only [List.append_assoc]
  have hlength : (cs ++ (a ++ back)).length = (c :: cs).length + a.length + back.length - 1 := by
    simp only [List.length_append, List.length_cons]
    omega
  rw [List.cons_append] at hat ⊢
  rw [addresses, addressesAfter, hat]
  dsimp only
  rw [addressesAfter_eq_drop, hparts, List.drop_left' hlength]

section Readdressed

variable {f : Text → Text} {u : Text}

theorem readdressed_nil_iff : Readdressed f [] u ↔ u = [] := by
  constructor
  · intro h
    generalize ht : ([] : Text) = t at h
    cases h with
    | nil => rfl
    | char _ _ => cases ht
    | reference h _ =>
      obtain ⟨c, cs, rfl⟩ := h.exists_cons
      cases ht
  · rintro rfl
    exact .nil

theorem readdressed_cons_iff {c : Char} {t : Text} (h : addressAt? (c :: t) = none) :
    Readdressed f (c :: t) u ↔ ∃ v, Readdressed f t v ∧ u = c :: v := by
  constructor
  · intro hu
    generalize ht : c :: t = t' at h hu
    cases hu with
    | nil => cases ht
    | char _ hrest =>
      obtain ⟨rfl, rfl⟩ := List.cons.inj ht
      exact ⟨_, hrest, rfl⟩
    | reference href _ => cases (href.addressAt?_eq _).symm.trans h
  · rintro ⟨v, hv, rfl⟩
    refine .char (fun front a back rest href hat => ?_) hv
    rw [hat, href.addressAt?_eq] at h
    cases h

theorem IsReference.readdressed_iff {front a back : Text} (h : IsReference front a back)
    (t : Text) : Readdressed f (front ++ (a ++ (back ++ t))) u ↔
      ∃ v, Readdressed f t v ∧ u = front ++ (f a ++ (back ++ v)) := by
  constructor
  · intro hu
    generalize ht : front ++ (a ++ (back ++ t)) = t' at hu
    cases hu with
    | nil =>
      obtain ⟨c, cs, rfl⟩ := h.exists_cons
      cases ht
    | char hnone _ => exact absurd ht.symm (hnone front a back t h)
    | reference h' hrest =>
      obtain ⟨rfl, rfl, rfl, rfl⟩ := h.unique h' ht
      exact ⟨_, hrest, rfl⟩
  · rintro ⟨v, hv, rfl⟩
    exact .reference h hv

end Readdressed

/-- **Cutting a stylesheet.**  A stylesheet is a sheet whose addresses are those it refers to, and
readdressing it is replacing them all at once. -/
theorem exists_sheet (content : Text) : ∃ s : Sheet, s.text id = content ∧
    s.addresses = addresses content ∧ ∀ f u, Readdressed f content u ↔ u = s.text f := by
  induction hlength : content.length using Nat.strongRecOn generalizing content with
  | ind n ih =>
    cases content with
    | nil =>
      exact ⟨.last ⟨[], none, Text.unmarked_nil, by simp⟩, rfl, rfl, fun f u => readdressed_nil_iff⟩
    | cons c cs =>
      cases hat : addressAt? (c :: cs) with
      | none =>
        obtain ⟨s, htext, haddresses, hreaddressed⟩ := ih cs.length (by simp [← hlength]) cs rfl
        obtain ⟨s', haddresses', htext'⟩ := s.exists_append [c]
        refine ⟨s', ?_, ?_, fun f u => ?_⟩
        · rw [htext', htext, List.singleton_append]
        · rw [haddresses', haddresses, addresses_cons hat]
        · simp only [readdressed_cons_iff hat, hreaddressed, htext', exists_eq_left,
            List.singleton_append]
      | some found =>
        obtain ⟨front, back, rest, h, hparts⟩ := exists_isReference hat
        obtain ⟨m, back', hm, hback⟩ := h.exists_mark
        have hshorter : rest.length < n := by
          rw [← hlength, hparts, hback]
          simp only [List.length_append, List.length_cons]
          omega
        obtain ⟨s, htext, haddresses, hreaddressed⟩ := ih rest.length hshorter rest rfl
        obtain ⟨s', haddresses', htext'⟩ := s.exists_append_address front h.isAddress hm back'
        have hall : ∀ f, s'.text f = front ++ (f found.1 ++ (back ++ s.text f)) := fun f => by
          rw [htext', hback, List.cons_append]
        refine ⟨s', ?_, ?_, fun f u => ?_⟩
        · rw [hall, htext, hparts, id]
        · rw [haddresses', hparts, h.addresses_eq, haddresses]
        · simp only [hparts, h.readdressed_iff, hreaddressed, hall, exists_eq_left]

theorem Readdressed.unique {f : Text → Text} {t u v : Text} (hu : Readdressed f t u)
    (hv : Readdressed f t v) : u = v := by
  obtain ⟨s, -, -, hreaddressed⟩ := exists_sheet t
  rw [(hreaddressed f u).1 hu, (hreaddressed f v).1 hv]

/-! ## Embedding -/

/-- What is put in for an address: the data address of the file it names. -/
def fileAddress (d : Disk) (dir address : Text) : Text :=
  dataAddress d.mediaTypes (d.resolve dir address)
    ((d.readBytes (d.resolve dir address)).toOption.getD [])

/-- Addresses whose files are there are embedded in turn. -/
theorem foldlM_embedAddress {d : Disk} {dir : Text} {as : List Text}
    (h : ∀ a ∈ as, ∃ bytes, d.readBytes (d.resolve dir a) = .ok bytes) (content : Text) :
    as.foldlM (embedAddress d dir) content = .ok (Text.inTurn (fileAddress d dir) as content) := by
  induction as generalizing content with
  | nil => rfl
  | cons a as ih =>
    obtain ⟨bytes, hbytes⟩ := h a List.mem_cons_self
    have hstep : embedAddress d dir content a =
        .ok (Text.replace a (fileAddress d dir a) content) := by
      simp only [embedAddress, fileAddress, hbytes]
      rfl
    rw [List.foldlM_cons, hstep]
    exact ih (fun b hb => h b (List.mem_cons_of_mem a hb)) _

/-- **Embedding as readdressing.**  Where all files that a stylesheet refers to are there, embedding
gives a result.  It is the stylesheet with the data address of its file for every address that it
refers to exactly if every address, when its turn comes, stands in the stylesheet as it is by then
as often as it is referred to, and nowhere any more if it had a turn before. -/
theorem embed_readdressed_iff (d : Disk) (hcwd : Path.isAbsolute d.cwd = true) (dir content : Text)
    (hfiles : ∀ a ∈ addresses content, ∃ bytes, d.readBytes (d.resolve dir a) = .ok bytes) :
    ∃ text, embed d dir content = .ok text ∧
      (Readdressed (fileAddress d dir) content text ↔
        ∀ before a after, addresses content = before ++ a :: after →
          ∀ now, Readdressed (Text.turned (fileAddress d dir) before) content now →
            Text.occurrences a now = if a ∈ before then 0 else (addresses content).count a) := by
  have hstamp : IsStamp (fileAddress d dir) :=
    isStamp_dataAddress d.mediaTypes (fun a => Disk.isAbsolute_resolve hcwd dir a) _
  obtain ⟨s, htext, haddresses, hreaddressed⟩ := exists_sheet content
  have hiff := s.inTurn_addresses_iff hstamp
  rw [htext, haddresses] at hiff
  refine ⟨_, foldlM_embedAddress hfiles content, ?_⟩
  rw [hreaddressed, hiff]
  simp only [hreaddressed, forall_eq]

/-- Two files with names of their own are embedded where they are referred to. -/
theorem embed_readdressed_iff_quoted :
    let d : Disk := { files := [("/site/a.png", [1, 2]), ("/site/b.gif", [3])] }
    let content : Text := "url(a.png)url('b.gif')"
    Path.isAbsolute d.cwd = true ∧
      addresses content = [("a.png" : Text), "b.gif"] ∧
      ∃ text, embed d "/site" content = .ok text ∧
        Readdressed (fileAddress d "/site") content text := by
  intro d content
  have haddresses : addresses content = [("a.png" : Text), "b.gif"] := by decide +kernel
  have hcontent : content = ("url(" : Text) ++ (("a.png" : Text) ++ ((")" : Text) ++
      (("url('" : Text) ++ (("b.gif" : Text) ++ (("')" : Text) ++ []))))) := by
    decide +kernel
  have ha : IsReference "url(" "a.png" ")" := isReference_of_isAddress ⟨by decide, by decide⟩
  have hb : IsReference "url('" "b.gif" "')" :=
    ⟨⟨"url(", ['\''], by decide, by decide, .inr (.inr rfl)⟩, ⟨by decide, by decide⟩,
      ⟨['\''], by decide, .inr (.inr rfl)⟩⟩
  have hturn : ∀ f, Readdressed f content (("url(" : Text) ++ (f "a.png" ++ ((")" : Text) ++
      (("url('" : Text) ++ (f "b.gif" ++ (("')" : Text) ++ [])))))) := fun f => by
    rw [hcontent]
    exact .reference ha (.reference hb .nil)
  refine ⟨by decide, haddresses, ?_⟩
  have hfiles : ∀ a ∈ addresses content,
      ∃ bytes, d.readBytes (d.resolve "/site" a) = .ok bytes := by
    rw [haddresses]
    simp only [List.forall_mem_cons]
    exact ⟨⟨[1, 2], by decide +kernel⟩, ⟨[3], by decide +kernel⟩,
      fun a ha => absurd ha List.not_mem_nil⟩
  obtain ⟨text, htext, hiff⟩ := embed_readdressed_iff d (by decide) "/site" content hfiles
  refine ⟨text, htext, hiff.2 ?_⟩
  rw [haddresses, forall_split_cons, forall_split_cons]
  refine ⟨fun now hnow => ?_, fun now hnow => ?_, fun before a after h => absurd h (by simp)⟩
  · rw [hnow.unique (hturn _)]
    decide +kernel
  · rw [hnow.unique (hturn _)]
    decide +kernel

/-- The name of one file is the end of the name of another, and is replaced there as well. -/
theorem embed_not_readdressed :
    let d : Disk := { files := [("/site/b.png", [1, 2]), ("/site/ab.png", [3])] }
    let content : Text := "url(b.png)url(ab.png)"
    ∃ text, embed d "/site" content = .ok text ∧
      ¬ Readdressed (fileAddress d "/site") content text := by
  intro d content
  have hembed : embed d "/site" content = .ok (("url(data:image/png;base64,b'AQI=')" : Text) ++
      "url(adata:image/png;base64,b'AQI=')") := by
    decide +kernel
  have hcontent : content = ("url(" : Text) ++ (("b.png" : Text) ++ ((")" : Text) ++
      (("url(" : Text) ++ (("ab.png" : Text) ++ ((")" : Text) ++ []))))) := by
    decide +kernel
  have hb : IsReference "url(" "b.png" ")" := isReference_of_isAddress ⟨by decide, by decide⟩
  have hab : IsReference "url(" "ab.png" ")" := isReference_of_isAddress ⟨by decide, by decide⟩
  refine ⟨_, hembed, fun h => ?_⟩
  rw [hcontent] at h
  have hboth := h.unique (.reference hb (.reference hab .nil))
  revert hboth
  decide +kernel

end Bundle

end PagePress

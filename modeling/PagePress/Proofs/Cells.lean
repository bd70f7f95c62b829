import PagePress.Proofs.Occurrences
import PagePress.Proofs.Transcript

/-!
# Replacing in turn, and all at once

A `Sheet` is a text that is cut at marks into cells, where some cells end with an address.  The
addresses are to be replaced, each by a text of its own.  That can be done cell by cell, all at once
(`Sheet.text`), or in turn: for one address after the other, everywhere where it stands in the text
as it has become (`inTurn`).  The two come to the same exactly if every address, when its turn
comes, stands nowhere but at the end of the cells it was found in (`Sheet.inTurn_addresses_iff`).

What makes this exact is that a replacement brings in marks, and an address has none.  So

* an address stands inside of one cell, and replacing goes cell by cell (`Sheet.inTurn_join`);
* marks never get fewer, and every replacement adds two (`marks_add_two_le`), which is why a
  replacement at a wrong place is never made good again;
* cells that have as many marks as they should stand where they should (`Sheet.join_inj_iff`).
-/

set_option autoImplicit false

namespace PagePress.Text

/-! ## Marks -/

/-- The characters at which an address ends. -/
def isMark (c : Char) : Bool := c == ')' || c == '"' || c == '\''

/-- Texts without a mark. -/
def Unmarked (t : Text) : Prop := ∀ c ∈ t, isMark c = false

instance (t : Text) : Decidable (Unmarked t) :=
  decidable_of_iff (t.all (!isMark ·) = true) (by simp [Unmarked])

/-- The number of marks of a text. -/
def marks (t : Text) : Nat := t.countP isMark

@[simp]
theorem marks_append (t u : Text) : marks (t ++ u) = marks t + marks u := List.countP_append

theorem marks_cons_of_isMark {m : Char} (hm : isMark m = true) (t : Text) :
    marks (m :: t) = marks t + 1 := List.countP_cons_of_pos hm

theorem marks_eq_zero_iff {t : Text} : marks t = 0 ↔ Unmarked t := by
  simp [marks, Unmarked]

theorem unmarked_append {t u : Text} : Unmarked (t ++ u) ↔ Unmarked t ∧ Unmarked u := by
  simp [Unmarked, or_imp, forall_and]

theorem unmarked_nil : Unmarked [] := fun _ hc => absurd hc List.not_mem_nil

theorem unmarked_cons {c : Char} {t : Text} :
    Unmarked (c :: t) ↔ isMark c = false ∧ Unmarked t := List.forall_mem_cons

/-- Texts with the same number of characters of a class, one of which follows, are the same if they
go on in the same way. -/
theorem append_cons_inj_of_countP {p : Char → Bool} {m : Char} (hm : p m = true) {t u x y : Text}
    (hcount : t.countP p = u.countP p) (h : t ++ m :: x = u ++ m :: y) : t = u ∧ x = y := by
  have hshort : ∀ {t u w x y : Text}, t.countP p = u.countP p → u = t ++ w →
      m :: x = w ++ m :: y → w = [] := by
    rintro t u w x y hcount rfl hw
    cases w with
    | nil => rfl
    | cons d ds =>
      obtain ⟨rfl, -⟩ := List.cons.inj hw
      rw [List.countP_append, List.countP_cons_of_pos hm] at hcount
      omega
  rcases List.append_eq_append_iff.1 h with ⟨w, hu, hx⟩ | ⟨w, ht, hy⟩
  · obtain rfl := hshort hcount hu hx
    exact ⟨by rw [hu, List.append_nil], (List.cons.inj hx).2⟩
  · obtain rfl := hshort hcount.symm ht hy
    exact ⟨by rw [ht, List.append_nil], (List.cons.inj hy).2.symm⟩

namespace Unmarked

variable {p : Text} {m : Char}

theorem not_prefix_mark (hp : Unmarked p) (hne : p ≠ []) (hm : isMark m = true) (r : Text) :
    ¬ p <+: m :: r := by
  obtain ⟨c, cs, rfl⟩ := List.exists_cons_of_ne_nil hne
  intro h
  obtain ⟨rfl, -⟩ := List.cons_prefix_cons.1 h
  exact absurd (hm.symm.trans (hp c List.mem_cons_self)) (by decide)

theorem apart (hp : Unmarked p) (hm : isMark m = true) (x r : Text) : Apart p x (m :: r) := by
  rintro u v - hv rfl - hprefix
  exact not_prefix_mark (unmarked_append.1 hp).2 hv hm r hprefix

theorem occurrences_append_mark (hp : Unmarked p) (hne : p ≠ []) (hm : isMark m = true)
    (x r : Text) : occurrences p (x ++ m :: r) = occurrences p x + occurrences p r := by
  rw [(hp.apart hm x r).occurrences_append, occurrences_cons_neg (hp.not_prefix_mark hne hm r)]

theorem replace_append_mark (hp : Unmarked p) (hne : p ≠ []) (hm : isMark m = true)
    (new x r : Text) :
    replace p new (x ++ m :: r) = replace p new x ++ m :: replace p new r := by
  rw [(hp.apart hm x r).replace_append hne, replace_cons (hp.not_prefix_mark hne hm r)]

end Unmarked

/-! ## The first place at which a text is replaced -/

section Replace

variable {old t : Text}

/-- A text is replaced where it stands first, and what follows is replaced on its own. -/
theorem exists_replace_first (new : Text) (hold : old ≠ []) (h : old <:+: t) :
    ∃ u v, t = u ++ (old ++ v) ∧ replace old new t = u ++ (new ++ replace old new v) ∧
      occurrences old t = occurrences old (old ++ v) := by
  induction t using replaceRec hold with
  | nil => exact absurd (List.eq_nil_of_infix_nil h) hold
  | here r => exact ⟨[], r, rfl, by rw [replace_append_self hold]; rfl, rfl⟩
  | cons c cs hhere ih =>
    obtain ⟨u, v, hcs, hreplace, hcount⟩ := ih ((List.infix_cons_iff.1 h).resolve_left hhere)
    refine ⟨c :: u, v, by rw [hcs]; rfl, ?_, ?_⟩
    · rw [replace_cons hhere, hreplace]
      rfl
    · rw [occurrences_cons_neg hhere, hcount]

/-- A text that stands once, and at the end, is replaced there. -/
theorem replace_of_occurrences_eq_one (new : Text) (hold : old ≠ []) {u : Text}
    (h : occurrences old (u ++ old) = 1) : replace old new (u ++ old) = u ++ new := by
  induction u with
  | nil =>
    have hself : replace old new (old ++ []) = new ++ replace old new [] :=
      replace_append_self hold []
    rwa [List.append_nil, replace_nil, List.append_nil] at hself
  | cons c cs ih =>
    have hend : 0 < occurrences old (cs ++ old) :=
      (occurrences_pos_iff hold).2 (List.suffix_append cs old).isInfix
    have hhere : ¬ old <+: c :: (cs ++ old) := by
      intro hprefix
      rw [List.cons_append, occurrences_cons_pos hprefix] at h
      omega
    rw [List.cons_append, occurrences_cons_neg hhere] at h
    rw [List.cons_append, replace_cons hhere, ih h, List.cons_append]

/-- Marks are kept where a text without marks is replaced. -/
theorem marks_le_replace (new : Text) (hold : old ≠ []) (hfree : Unmarked old) (t : Text) :
    marks t ≤ marks (replace old new t) := by
  have hcons : ∀ (c : Char) (cs : Text), marks (c :: cs) = marks [c] + marks cs := fun c =>
    marks_append [c]
  induction t using replaceRec hold with
  | nil => exact Nat.le_refl _
  | here r ih =>
    rw [replace_append_self hold, marks_append, marks_append, marks_eq_zero_iff.2 hfree]
    omega
  | cons c cs hhere ih =>
    rw [replace_cons hhere, hcons, hcons c (replace old new cs)]
    omega

end Replace

/-! ## Stamps -/

/-- What is put in for addresses: texts with two marks, of which one is at the end, that start at
one place only. -/
structure IsStamp (stamp : Text → Text) : Prop where
  marks_eq : ∀ a, marks (stamp a) = 2
  last : ∀ a, ∃ m ∈ (stamp a).getLast?, isMark m = true
  start : ∀ {u v a b}, Unmarked u → Unmarked v → u ++ stamp a = v ++ stamp b → u = v

/-- The texts that can be addresses. -/
def IsAddress (a : Text) : Prop := a ≠ [] ∧ Unmarked a

/-- Puts the stamp of one address after the other everywhere where the address stands. -/
def inTurn (stamp : Text → Text) (as : List Text) (t : Text) : Text :=
  as.foldl (fun t a => replace a (stamp a) t) t

variable {stamp : Text → Text}

theorem marks_le_inTurn (stamp : Text → Text) {as : List Text} (has : ∀ a ∈ as, IsAddress a)
    (t : Text) : marks t ≤ marks (inTurn stamp as t) := by
  induction as generalizing t with
  | nil => exact Nat.le_refl _
  | cons a as ih =>
    have ha := has a List.mem_cons_self
    exact (marks_le_replace (stamp a) ha.1 ha.2 t).trans
      (ih (fun b hb => has b (List.mem_cons_of_mem a hb)) _)

section Turns

variable (hstamp : IsStamp stamp) {a t : Text} {as : List Text}
include hstamp

/-- **A replacement adds two marks.** -/
theorem marks_add_two_le (ha : IsAddress a) (h : a <:+: t) :
    marks t + 2 ≤ marks (replace a (stamp a) t) := by
  have hfree : marks a = 0 := marks_eq_zero_iff.2 ha.2
  obtain ⟨u, v, ht, hreplace, -⟩ := exists_replace_first (stamp a) ha.1 h
  have hrest := marks_le_replace (stamp a) ha.1 ha.2 v
  have htwo := hstamp.marks_eq a
  rw [hreplace, ht]
  simp only [marks_append]
  omega

theorem inTurn_eq_self (has : ∀ a ∈ as, IsAddress a) (h : marks (inTurn stamp as t) = marks t) :
    inTurn stamp as t = t := by
  induction as generalizing t with
  | nil => rfl
  | cons a as ih =>
    have hrest : ∀ b ∈ as, IsAddress b := fun b hb => has b (List.mem_cons_of_mem a hb)
    have ha := has a List.mem_cons_self
    have hmore := marks_le_inTurn stamp hrest (replace a (stamp a) t)
    rw [inTurn, List.foldl_cons, ← inTurn] at h ⊢
    have hnone : ¬ a <:+: t := by
      intro hin
      have := marks_add_two_le hstamp ha hin
      omega
    rw [replace_eq_self ha.1 hnone] at h ⊢
    exact ih hrest h

/-- A text in which one of the addresses stands gets two marks at least. -/
theorem marks_add_two_le_inTurn (has : ∀ a ∈ as, IsAddress a) (ha : a ∈ as) (h : a <:+: t) :
    marks t + 2 ≤ marks (inTurn stamp as t) := by
  induction as generalizing t with
  | nil => cases ha
  | cons b as ih =>
    have hrest : ∀ b ∈ as, IsAddress b := fun c hc => has c (List.mem_cons_of_mem b hc)
    have hb := has b List.mem_cons_self
    rw [inTurn, List.foldl_cons, ← inTurn]
    by_cases hin : b <:+: t
    · exact (marks_add_two_le hstamp hb hin).trans (marks_le_inTurn stamp hrest _)
    · rw [replace_eq_self hb.1 hin]
      rcases List.mem_cons.1 ha with rfl | ha
      · exact absurd h hin
      · exact ih hrest ha h

/-- Where replacing an address puts the stamp of the address at the end of a text there, and no
other, the two addresses are the same, and it stands nowhere else. -/
theorem eq_of_replace_eq {b before : Text} (hbefore : Unmarked before) (hb : IsAddress b)
    (ha : IsAddress a) (hin : a <:+: before ++ b)
    (h : replace a (stamp a) (before ++ b) = before ++ stamp b) :
    a = b ∧ occurrences a (before ++ b) = 1 := by
  obtain ⟨u, v, hsplit, hreplace, hcount⟩ := exists_replace_first (stamp a) ha.1 hin
  obtain ⟨hu, hv⟩ : Unmarked u ∧ Unmarked v := by
    have hfree := unmarked_append.2 ⟨hbefore, hb.2⟩
    rw [hsplit, unmarked_append, unmarked_append] at hfree
    exact ⟨hfree.1, hfree.2.2⟩
  rw [hreplace] at h
  -- there is one stamp only, so that nothing is replaced behind it
  have hrest : replace a (stamp a) v = v := by
    refine replace_eq_self ha.1 fun hin => ?_
    have hmore := marks_add_two_le hstamp ha hin
    have hmarks := congrArg marks h
    have htwo := hstamp.marks_eq a
    have htwo' := hstamp.marks_eq b
    have hzero := marks_eq_zero_iff.2 hbefore
    simp only [marks_append] at hmarks
    omega
  rw [hrest] at h
  obtain rfl : v = [] := by
    by_contra hne
    obtain ⟨m, hm, hmark⟩ := hstamp.last b
    have hlast := congrArg List.getLast? h
    have hstampne : stamp b ≠ [] := List.ne_nil_of_mem (List.mem_of_getLast? hm)
    rw [List.getLast?_append_of_ne_nil _ (by simp [hne]), List.getLast?_append_of_ne_nil _ hne,
      List.getLast?_append_of_ne_nil _ hstampne, Option.mem_def.1 hm] at hlast
    exact absurd (hmark.symm.trans (hv m (List.mem_of_getLast? hlast))) (by decide)
  rw [List.append_nil] at h hsplit hcount
  obtain rfl := hstamp.start hu hbefore h
  obtain rfl := List.append_cancel_left hsplit
  exact ⟨rfl, hcount.trans (occurrences_self ha.1)⟩

end Turns

/-! ## Cells -/

/-- A piece of a text without marks, perhaps with an address at its end. -/
structure Cell where
  before : Text
  address? : Option Text
  unmarked : Unmarked before
  isAddress : ∀ a ∈ address?, IsAddress a

namespace Cell

/-- The text of a cell with `f a` for its address `a`. -/
def text (f : Text → Text) (c : Cell) : Text := c.before ++ c.address?.elim [] f

/-- How often an address is still to be replaced in a cell after those of `past`. -/
def due (past : List Text) (a : Text) (c : Cell) : Nat :=
  if c.address? = some a ∧ a ∉ past then 1 else 0

end Cell

/-- The stamps of the addresses that had their turn; the other addresses stay. -/
def turned (stamp : Text → Text) (past : List Text) (a : Text) : Text :=
  if a ∈ past then stamp a else a

theorem turned_of_mem {past : List Text} {a : Text} (h : a ∈ past) :
    turned stamp past a = stamp a := if_pos h

theorem turned_of_not_mem {past : List Text} {a : Text} (h : a ∉ past) :
    turned stamp past a = a := if_neg h

namespace Cell

theorem text_of_address {c : Cell} {a : Text} (h : c.address? = some a) (f : Text → Text) :
    c.text f = c.before ++ f a := by
  rw [text, h, Option.elim_some]

theorem due_eq (past : List Text) (a : Text) (c : Cell) :
    c.due past a = if a ∈ past then 0 else c.address?.toList.count a := by
  rw [due]
  by_cases hpast : a ∈ past
  · simp [hpast]
  · cases c.address? with
    | none => simp
    | some b => by_cases hab : b = a <;> simp [hpast, hab]

theorem marks_text (hstamp : IsStamp stamp) (c : Cell) :
    marks (c.text stamp) = if c.address?.isSome then 2 else 0 := by
  rw [text, marks_append, marks_eq_zero_iff.2 c.unmarked, Nat.zero_add]
  cases c.address? with
  | none => rfl
  | some a => exact hstamp.marks_eq a

theorem infix_text_of_due (stamp : Text → Text) {past : List Text} {a : Text} {c : Cell}
    (h : 0 < c.due past a) : a <:+: c.text (turned stamp past) := by
  rw [due] at h
  split at h
  · rename_i hdue
    rw [text_of_address hdue.1, turned_of_not_mem hdue.2]
    exact (List.suffix_append _ _).isInfix
  · omega

/-- **A right turn.**  An address that stands in a cell as often as it is due there is replaced
where it should be. -/
theorem replace_of_eq_due {past : List Text} {a : Text} (ha : IsAddress a) {c : Cell}
    (h : occurrences a (c.text (turned stamp past)) = c.due past a) :
    replace a (stamp a) (c.text (turned stamp past)) = c.text (turned stamp (past ++ [a])) := by
  by_cases hdue : c.address? = some a ∧ a ∉ past
  · obtain ⟨haddress, hpast⟩ := hdue
    rw [text_of_address haddress, turned_of_not_mem hpast, due, if_pos ⟨haddress, hpast⟩] at h
    rw [text_of_address haddress, turned_of_not_mem hpast,
      replace_of_occurrences_eq_one (stamp a) ha.1 h, text_of_address haddress,
      turned_of_mem (by simp)]
  · rw [due, if_neg hdue, occurrences_eq_zero_iff ha.1] at h
    rw [replace_eq_self ha.1 h, text, text]
    congr 1
    cases haddress : c.address? with
    | none => rfl
    | some b =>
      have hsame : b ∈ past ++ [a] ↔ b ∈ past := by
        rw [List.mem_append, List.mem_singleton]
        refine or_iff_left_of_imp ?_
        rintro rfl
        exact not_not.1 fun hpast => hdue ⟨haddress, hpast⟩
      simp only [Option.elim_some, turned, hsame]

/-- **A wrong turn.**  Where an address stands in a cell more often than it is due there, the cell
does not come out as it should, whatever follows. -/
theorem inTurn_ne_of_ne_due (hstamp : IsStamp stamp) {past as : List Text}
    (has : ∀ a ∈ as, IsAddress a) {a : Text} (ha : IsAddress a) {c : Cell}
    (h : occurrences a (c.text (turned stamp past)) ≠ c.due past a) :
    inTurn stamp as (replace a (stamp a) (c.text (turned stamp past))) ≠ c.text stamp := by
  intro heq
  have hin : a <:+: c.text (turned stamp past) := by
    rcases Nat.eq_zero_or_pos (c.due past a) with hzero | hpos
    · rw [← occurrences_pos_iff ha.1]
      omega
    · exact infix_text_of_due stamp hpos
  have hmore := marks_add_two_le hstamp ha hin
  have hlast := marks_le_inTurn stamp has (replace a (stamp a) (c.text (turned stamp past)))
  have hmarks := c.marks_text hstamp
  rw [← heq] at hmarks
  cases haddress : c.address? with
  | none =>
    rw [haddress] at hmarks
    simp only [Option.isSome_none, Bool.false_eq_true, if_false] at hmarks
    omega
  | some b =>
    rw [haddress, Option.isSome_some, if_pos rfl] at hmarks
    by_cases hpast : b ∈ past
    · -- the stamp is there already, and there is no room for a second one
      have hthere : c.text (turned stamp past) = c.text stamp := by
        rw [text_of_address haddress, text_of_address haddress, turned_of_mem hpast]
      rw [hthere, c.marks_text hstamp, haddress, Option.isSome_some, if_pos rfl, ← hthere] at hmore
      omega
    · -- there is one stamp in the end, so that it is put in now and stays alone
      have hold : c.text (turned stamp past) = c.before ++ b := by
        rw [text_of_address haddress, turned_of_not_mem hpast]
      have hstay := inTurn_eq_self hstamp (t := replace a (stamp a) (c.text (turned stamp past)))
        has (by omega)
      have hnow : replace a (stamp a) (c.before ++ b) = c.before ++ stamp b := by
        rw [← hold, ← hstay, heq, text_of_address haddress]
      rw [hold] at hin h
      obtain ⟨rfl, hone⟩ :=
        eq_of_replace_eq hstamp c.unmarked (c.isAddress b haddress) ha hin hnow
      exact h (by rw [hone, due, if_pos ⟨haddress, hpast⟩])

/-- **A cell in turn.**  A cell comes out as it should exactly if every address, when its turn
comes, stands in it as often as it is due there. -/
theorem inTurn_text_iff (hstamp : IsStamp stamp) {as : List Text} (has : ∀ a ∈ as, IsAddress a)
    (c : Cell) (past : List Text) (hc : ∀ a ∈ c.address?, a ∈ past ∨ a ∈ as) :
    inTurn stamp as (c.text (turned stamp past)) = c.text stamp ↔
      ∀ before a after, as = before ++ a :: after →
        occurrences a (c.text (turned stamp (past ++ before))) = c.due (past ++ before) a := by
  induction as generalizing past with
  | nil =>
    refine iff_of_true ?_ (by simp)
    rw [inTurn, List.foldl_nil]
    cases haddress : c.address? with
    | none => rw [text, text, haddress, Option.elim_none, Option.elim_none]
    | some b =>
      have hpast : b ∈ past := (hc b haddress).resolve_right List.not_mem_nil
      rw [text_of_address haddress, text_of_address haddress, turned_of_mem hpast]
  | cons a as ih =>
    have ha := has a List.mem_cons_self
    have hrest : ∀ b ∈ as, IsAddress b := fun b hb => has b (List.mem_cons_of_mem a hb)
    rw [forall_split_cons, List.append_nil, inTurn, List.foldl_cons, ← inTurn]
    by_cases hdue : occurrences a (c.text (turned stamp past)) = c.due past a
    · have hnext := ih hrest (past ++ [a]) fun b hb => by
        rcases hc b hb with h | h
        · exact .inl (List.mem_append_left _ h)
        · rcases List.mem_cons.1 h with rfl | h
          · exact .inl (by simp)
          · exact .inr h
      rw [replace_of_eq_due ha hdue, hnext]
      simp [hdue]
    · exact iff_of_false (inTurn_ne_of_ne_due hstamp hrest ha hdue) fun h => hdue h.1

/-- In turn, a cell gets as many marks as it should at least. -/
theorem marks_text_le_inTurn (hstamp : IsStamp stamp) {as : List Text}
    (has : ∀ a ∈ as, IsAddress a) (c : Cell) (hc : ∀ a ∈ c.address?, a ∈ as) :
    marks (c.text stamp) ≤ marks (inTurn stamp as (c.text id)) := by
  rw [c.marks_text hstamp]
  cases haddress : c.address? with
  | none => exact Nat.zero_le _
  | some b =>
    have hin : b <:+: c.text id := by
      rw [text_of_address haddress]
      exact (List.suffix_append _ _).isInfix
    have hmore := marks_add_two_le_inTurn hstamp has (hc b haddress) hin
    rw [Option.isSome_some, if_pos rfl]
    omega

theorem due_le_occurrences (stamp : Text → Text) {past : List Text} {a : Text} (ha : IsAddress a)
    (c : Cell) :
    c.due past a ≤ occurrences a (c.text (turned stamp past)) := by
  rcases Nat.eq_zero_or_pos (c.due past a) with hzero | hpos
  · omega
  · have hin := (occurrences_pos_iff ha.1).2 (infix_text_of_due stamp hpos)
    have hone : c.due past a ≤ 1 := by
      rw [due]
      split <;> omega
    omega

end Cell

/-! ## Sheets -/

/-- Cells with marks between them. -/
inductive Sheet where
  | last (c : Cell)
  | cons (c : Cell) (m : Char) (hm : isMark m = true) (rest : Sheet)

namespace Sheet

def cells : Sheet → List Cell
  | last c => [c]
  | cons c _ _ rest => c :: rest.cells

/-- The addresses of a sheet, in their order. -/
def addresses (s : Sheet) : List Text := s.cells.filterMap Cell.address?

/-- The text of a sheet with `F c` for its cell `c`. -/
def join (F : Cell → Text) : Sheet → Text
  | last c => F c
  | cons c m _ rest => F c ++ m :: rest.join F

/-- The sum of the numbers `n c` of the cells `c`. -/
def total (n : Cell → Nat) : Sheet → Nat
  | last c => n c
  | cons c _ _ rest => n c + rest.total n

/-- The text of a sheet with `f a` for its address `a`. -/
def text (f : Text → Text) (s : Sheet) : Text := s.join (Cell.text f)

theorem addresses_last (c : Cell) : (last c).addresses = c.address?.toList := by
  cases h : c.address? <;> simp [addresses, cells, h]

theorem addresses_cons (c : Cell) {mark : Char} (hmark : isMark mark = true) (rest : Sheet) :
    (cons c mark hmark rest).addresses = c.address?.toList ++ rest.addresses := by
  cases h : c.address? <;> simp [addresses, cells, h]

theorem isAddress_of_mem {s : Sheet} {a : Text} (ha : a ∈ s.addresses) : IsAddress a := by
  obtain ⟨c, -, hc⟩ := List.mem_filterMap.1 ha
  exact c.isAddress a hc

theorem mem_addresses {s : Sheet} {c : Cell} (hc : c ∈ s.cells) {a : Text} (ha : a ∈ c.address?) :
    a ∈ s.addresses := List.mem_filterMap.2 ⟨c, hc, ha⟩

/-- Any text can stand before a sheet. -/
theorem exists_append (t : Text) (s : Sheet) :
    ∃ s' : Sheet, s'.addresses = s.addresses ∧ ∀ f, s'.text f = t ++ s.text f := by
  induction t with
  | nil => exact ⟨s, rfl, fun f => rfl⟩
  | cons c cs ih =>
    obtain ⟨s', haddresses, htext⟩ := ih
    rw [← haddresses]
    simp only [List.cons_append, ← htext]
    cases hc : isMark c with
    | true =>
      -- a mark ends a cell
      exact ⟨cons ⟨[], none, unmarked_nil, by simp⟩ c hc s', rfl, fun f => rfl⟩
    | false =>
      -- anything else is added to the first cell
      have hmore : ∀ {d : Cell}, Unmarked (c :: d.before) := fun {d} =>
        unmarked_cons.2 ⟨hc, d.unmarked⟩
      cases s' with
      | last d =>
        exact ⟨last ⟨c :: d.before, d.address?, hmore, d.isAddress⟩, rfl, fun f => rfl⟩
      | cons d m hm rest =>
        exact ⟨cons ⟨c :: d.before, d.address?, hmore, d.isAddress⟩ m hm rest, rfl, fun f => rfl⟩

/-- An address with a mark behind it, and any text around the two, can stand before a sheet. -/
theorem exists_append_address (front : Text) {a : Text} (ha : IsAddress a) {m : Char}
    (hm : isMark m = true) (back : Text) (s : Sheet) :
    ∃ s' : Sheet, s'.addresses = a :: s.addresses ∧
      ∀ f, s'.text f = front ++ (f a ++ m :: (back ++ s.text f)) := by
  obtain ⟨s₁, haddresses₁, htext₁⟩ := s.exists_append back
  obtain ⟨s₂, haddresses₂, htext₂⟩ :=
    (cons ⟨[], some a, unmarked_nil, by simpa using ha⟩ m hm s₁).exists_append front
  refine ⟨s₂, ?_, fun f => ?_⟩
  · rw [haddresses₂, ← haddresses₁]
    rfl
  · rw [htext₂, ← htext₁]
    rfl

variable {F G : Cell → Text} {a : Text}

theorem occurrences_join (ha : IsAddress a) (F : Cell → Text) (s : Sheet) :
    occurrences a (s.join F) = s.total fun c => occurrences a (F c) := by
  induction s with
  | last c => rfl
  | cons c m hm rest ih => rw [join, ha.2.occurrences_append_mark ha.1 hm, ih, total]

theorem replace_join (ha : IsAddress a) (new : Text) (F : Cell → Text) (s : Sheet) :
    replace a new (s.join F) = s.join fun c => replace a new (F c) := by
  induction s with
  | last c => rfl
  | cons c m hm rest ih => rw [join, ha.2.replace_append_mark ha.1 hm, ih, join]

/-- **In turn, cell by cell.** -/
theorem inTurn_join {as : List Text} (has : ∀ a ∈ as, IsAddress a) (F : Cell → Text) (s : Sheet) :
    inTurn stamp as (s.join F) = s.join fun c => inTurn stamp as (F c) := by
  induction as generalizing F with
  | nil => rfl
  | cons a as ih =>
    simp only [inTurn, List.foldl_cons, replace_join (has a List.mem_cons_self)]
    exact ih (fun b hb => has b (List.mem_cons_of_mem a hb)) _

theorem marks_join_le {s : Sheet} (h : ∀ c ∈ s.cells, marks (G c) ≤ marks (F c)) :
    marks (s.join G) ≤ marks (s.join F) := by
  induction s with
  | last c => exact h c List.mem_cons_self
  | cons c m hm rest ih =>
    have hhere := h c List.mem_cons_self
    have hthere := ih fun d hd => h d (List.mem_cons_of_mem c hd)
    simp only [join, marks_append, marks_cons_of_isMark hm]
    omega

/-- **Cells stand where they should** in a sheet that reads as it should, if none of them has fewer
marks than it should. -/
theorem join_inj_iff {s : Sheet} (h : ∀ c ∈ s.cells, marks (G c) ≤ marks (F c)) :
    s.join F = s.join G ↔ ∀ c ∈ s.cells, F c = G c := by
  induction s with
  | last c => simp [join, cells]
  | cons c m hm rest ih =>
    have hhere := h c List.mem_cons_self
    have hrest : ∀ d ∈ rest.cells, marks (G d) ≤ marks (F d) := fun d hd =>
      h d (List.mem_cons_of_mem c hd)
    rw [cells, List.forall_mem_cons, ← ih hrest, join, join]
    constructor
    · intro heq
      have hmarks := congrArg marks heq
      have hthere := marks_join_le hrest
      simp only [marks_append, marks_cons_of_isMark hm] at hmarks
      exact append_cons_inj_of_countP hm (show marks (F c) = marks (G c) by omega) heq
    · rintro ⟨hc, hjoin⟩
      rw [hc, hjoin]

variable {m n : Cell → Nat}

theorem total_mono {s : Sheet} (h : ∀ c ∈ s.cells, m c ≤ n c) : s.total m ≤ s.total n := by
  induction s with
  | last c => exact h c List.mem_cons_self
  | cons c _ _ rest ih =>
    exact Nat.add_le_add (h c List.mem_cons_self) (ih fun d hd => h d (List.mem_cons_of_mem c hd))

theorem total_eq_iff {s : Sheet} (h : ∀ c ∈ s.cells, m c ≤ n c) :
    s.total n = s.total m ↔ ∀ c ∈ s.cells, n c = m c := by
  induction s with
  | last c => simp [total, cells]
  | cons c _ _ rest ih =>
    have hhere := h c List.mem_cons_self
    have hrest : ∀ d ∈ rest.cells, m d ≤ n d := fun d hd => h d (List.mem_cons_of_mem c hd)
    have hthere := total_mono hrest
    rw [cells, List.forall_mem_cons, ← ih hrest, total, total]
    omega

/-- An address that had no turn yet is due once for each time it was found. -/
theorem total_due (past : List Text) (a : Text) (s : Sheet) :
    s.total (Cell.due past a) = if a ∈ past then 0 else s.addresses.count a := by
  induction s with
  | last c => rw [total, Cell.due_eq, addresses_last]
  | cons c mark hmark rest ih =>
    rw [total, Cell.due_eq, ih, addresses_cons, List.count_append]
    split <;> rfl

/-- An address stands in a sheet as often as it is due there exactly if that is so in every cell. -/
theorem occurrences_eq_iff (ha : IsAddress a) (past : List Text) (s : Sheet) :
    occurrences a (s.text (turned stamp past)) = (if a ∈ past then 0 else s.addresses.count a) ↔
      ∀ c ∈ s.cells, occurrences a (c.text (turned stamp past)) = c.due past a := by
  rw [text, occurrences_join ha, ← total_due]
  exact total_eq_iff fun c _ => c.due_le_occurrences stamp ha

/-- **In turn, and all at once.**  Replacing the addresses of a sheet in turn comes to the same as
replacing them all at once exactly if every address, when its turn comes, stands in the sheet as
often as it was found there, or nowhere if it had a turn before. -/
theorem inTurn_addresses_iff (hstamp : IsStamp stamp) (s : Sheet) :
    inTurn stamp s.addresses (s.text id) = s.text stamp ↔
      ∀ before a after, s.addresses = before ++ a :: after →
        occurrences a (s.text (turned stamp before)) =
          if a ∈ before then 0 else s.addresses.count a := by
  have has : ∀ a ∈ s.addresses, IsAddress a := fun a => isAddress_of_mem
  have hnil : turned stamp [] = id := funext fun a => turned_of_not_mem List.not_mem_nil
  have henough : ∀ c ∈ s.cells,
      marks (c.text stamp) ≤ marks (inTurn stamp s.addresses (c.text id)) := fun c hc =>
    c.marks_text_le_inTurn hstamp has fun a ha => mem_addresses hc ha
  have hcell : ∀ c ∈ s.cells, inTurn stamp s.addresses (c.text id) = c.text stamp ↔
      ∀ before a after, s.addresses = before ++ a :: after →
        occurrences a (c.text (turned stamp before)) = c.due before a := fun c hc => by
    have := c.inTurn_text_iff hstamp has [] fun a ha => .inr (mem_addresses hc ha)
    simpa only [List.nil_append, hnil] using this
  have hmem : ∀ {before a after}, s.addresses = before ++ a :: after → IsAddress a := fun hsplit =>
    has _ (by rw [hsplit]; simp)
  rw [text, text, inTurn_join has, join_inj_iff henough]
  constructor
  · intro h before a after hsplit
    rw [occurrences_eq_iff (hmem hsplit)]
    exact fun c hc => (hcell c hc).1 (h c hc) before a after hsplit
  · intro h c hc
    refine (hcell c hc).2 fun before a after hsplit => ?_
    exact (occurrences_eq_iff (hmem hsplit) before s).1 (h before a after hsplit) c hc

end Sheet

end PagePress.Text

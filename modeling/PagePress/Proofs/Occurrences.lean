import Mathlib.Data.List.Infix
import PagePress.Text.Search

/-!
# Occurrences in a text, and what replacing does to them

`Text.occurrences p t` counts the places of a text at which `p` stands; two of them may overlap.
Replacing every occurrence of a tag by a block changes the count of another tag in the obvious way,
because a tag cannot stand across the border of a block (`Text.occurrences_replace`).  For texts
that are no tags there are bounds.

* `Text.Apart p x y` says that `p` cannot stand across the border of `x` and `y`.  Then occurrences
  add up (`Text.Apart.occurrences_append`) and replacing goes piece by piece
  (`Text.Apart.replace_append`).
* `Text.IsTag` are the texts from a `<` to the next `>` in one line; they are apart wherever a
  `<` follows or a `>` stands before.
* `Text.replaceRec` is induction along the places at which a text is replaced.
* `Text.occurrences_eq_one_iff` tells when a text stands once, by counting a beginning of it.
* `Text.not_infix_replace` tells when a text is torn by a replacement inside of it.
-/

set_option autoImplicit false

namespace PagePress.Text

/-! ## Counting -/

/-- The number of places of a text at which `p` stands, if `p` is not empty. -/
def occurrences (p : Text) : Text → Nat
  | [] => 0
  | c :: cs => (if p <+: c :: cs then 1 else 0) + occurrences p cs

theorem occurrences_cons_pos {p cs : Text} {c : Char} (h : p <+: c :: cs) :
    occurrences p (c :: cs) = occurrences p cs + 1 := by
  rw [occurrences, if_pos h, Nat.add_comm]

theorem occurrences_cons_neg {p cs : Text} {c : Char} (h : ¬ p <+: c :: cs) :
    occurrences p (c :: cs) = occurrences p cs := by
  rw [occurrences, if_neg h, Nat.zero_add]

theorem occurrences_pos_iff {p t : Text} (hp : p ≠ []) : 0 < occurrences p t ↔ p <:+: t := by
  induction t with
  | nil => simpa [occurrences] using hp
  | cons c cs ih =>
    rw [List.infix_cons_iff, ← ih]
    by_cases h : p <+: c :: cs
    · simp [occurrences_cons_pos h, h]
    · simp [occurrences_cons_neg h, h]

theorem occurrences_eq_zero_iff {p t : Text} (hp : p ≠ []) : occurrences p t = 0 ↔ ¬ p <:+: t := by
  rw [← occurrences_pos_iff hp]
  omega

/-- The places of two texts are places of the two put together. -/
theorem occurrences_append_le (p x y : Text) :
    occurrences p x + occurrences p y ≤ occurrences p (x ++ y) := by
  induction x with
  | nil => simp [occurrences]
  | cons c cs ih =>
    have hplace : p <+: c :: cs → p <+: c :: (cs ++ y) := fun h => h.trans ⟨y, rfl⟩
    rw [List.cons_append, occurrences, occurrences]
    grind

theorem occurrences_mono {p x t : Text} (h : x <:+: t) :
    occurrences p x ≤ occurrences p t := by
  obtain ⟨a, b, rfl⟩ := h
  have hleft := occurrences_append_le p a x
  have hright := occurrences_append_le p (a ++ x) b
  omega

/-- A text stands at most where a beginning of it does. -/
theorem occurrences_anti {o p : Text} (h : o <+: p) (t : Text) :
    occurrences p t ≤ occurrences o t := by
  induction t with
  | nil => exact Nat.le_refl _
  | cons c cs ih =>
    have hplace : p <+: c :: cs → o <+: c :: cs := h.trans
    rw [occurrences, occurrences]
    grind

/-- Where a text stands more than once, a beginning of it stands more often than in the text. -/
theorem occurrences_add_le {o p t : Text} (h : o <+: p) (hpos : 0 < occurrences p t) :
    occurrences o p + occurrences p t ≤ occurrences o t + 1 := by
  induction t with
  | nil => simp [occurrences] at hpos
  | cons c cs ih =>
    by_cases hp : p <+: c :: cs
    · have hprefix := occurrences_mono (p := o) hp.isInfix
      rw [occurrences_cons_pos (h.trans hp)] at hprefix ⊢
      rw [occurrences_cons_pos hp]
      rcases Nat.eq_zero_or_pos (occurrences p cs) with hzero | hmore
      · omega
      · have := ih hmore
        omega
    · rw [occurrences_cons_neg hp] at hpos ⊢
      have hrest := ih hpos
      rw [occurrences]
      omega

/-- **A text stands once** exactly if it is put in once, where all occurrences of a beginning of it
are in the `n` places at which it is put in. -/
theorem occurrences_eq_one_iff {o p t : Text} {n : Nat} (h : o <+: p)
    (hcount : occurrences o t = n * occurrences o p) (hle : n ≤ occurrences p t) :
    occurrences p t = 1 ↔ n = 1 := by
  constructor
  · intro hone
    have hbound := occurrences_anti h t
    rcases Nat.eq_zero_or_pos n with rfl | hpos
    · omega
    · omega
  · rintro rfl
    have hbound := occurrences_add_le h hle
    omega

/-! ## Borders -/

/-- `p` cannot stand across the border of `x` and `y`. -/
def Apart (p x y : Text) : Prop :=
  ∀ u v, u ≠ [] → v ≠ [] → u ++ v = p → u <:+ x → ¬ v <+: y

namespace Apart

variable {p x y : Text}

theorem of_suffix {z : Text} (h : Apart p x y) (hz : z <:+ x) : Apart p z y :=
  fun u v hu hv huv hsuffix => h u v hu hv huv (hsuffix.trans hz)

/-- What stands at a place of the first text ends there too. -/
theorem prefix_append_iff {c : Char} {cs : Text} (h : Apart p (c :: cs) y) :
    p <+: c :: (cs ++ y) ↔ p <+: c :: cs := by
  refine ⟨?_, fun hp => hp.trans ⟨y, rfl⟩⟩
  rintro ⟨rest, hrest⟩
  rcases List.append_eq_append_iff.1 (hrest.trans (List.cons_append ..).symm) with
    ⟨v, hv, -⟩ | ⟨v, rfl, hy⟩
  · exact ⟨v, hv.symm⟩
  · rcases eq_or_ne v [] with rfl | hne
    · simp
    · exact absurd ⟨rest, hy.symm⟩ (h _ v (by simp) hne rfl (List.suffix_refl _))

/-- **Occurrences add up** at a border that `p` cannot stand across. -/
theorem occurrences_append (h : Apart p x y) :
    occurrences p (x ++ y) = occurrences p x + occurrences p y := by
  induction x with
  | nil => simp [occurrences]
  | cons c cs ih =>
    rw [List.cons_append, occurrences, occurrences, ih (h.of_suffix (List.suffix_cons c cs)),
      Nat.add_assoc]
    simp only [h.prefix_append_iff]

end Apart

/-- A text from a `<` to the next `>`, in one line. -/
structure IsTag (p : Text) : Prop where
  head : p.head? = some '<'
  last : p.getLast? = some '>'
  tail : '<' ∉ p.tail
  body : ∀ c ∈ p.dropLast, c ≠ '>' ∧ c ≠ '\n'

/-- Whether a text is a tag. -/
def isTag (p : Text) : Bool :=
  p.head? == some '<' && p.getLast? == some '>' && p.tail.all (· != '<') &&
    p.dropLast.all fun c => c != '>' && c != '\n'

theorem isTag_iff {p : Text} : isTag p = true ↔ IsTag p := by
  simp only [isTag, Bool.and_eq_true, beq_iff_eq, List.all_eq_true, bne_iff_ne, and_assoc]
  constructor
  · rintro ⟨hhead, hlast, htail, hbody⟩
    exact ⟨hhead, hlast, fun h => htail '<' h rfl, hbody⟩
  · intro h
    exact ⟨h.head, h.last, fun c hc heq => h.tail (heq ▸ hc), h.body⟩

instance (p : Text) : Decidable (IsTag p) := decidable_of_iff (isTag p = true) isTag_iff

/-- A text that starts with a `<` and ends with a `>` or an end of line. -/
structure IsBlock (t : Text) : Prop where
  head : t.head? = some '<'
  last : ∀ c ∈ t.getLast?, c = '>' ∨ c = '\n'

namespace IsTag

variable {p : Text}

theorem ne_nil (hp : IsTag p) : p ≠ [] := by
  rintro rfl
  exact absurd hp.head (by simp)

theorem occurrences_eq_zero (hp : IsTag p) {t : Text} (h : ¬ p <:+: t) :
    occurrences p t = 0 :=
  (occurrences_eq_zero_iff hp.ne_nil).2 h

theorem isBlock (hp : IsTag p) : IsBlock p where
  head := hp.head
  last _ hc := .inl (Option.some.inj (hc.symm.trans hp.last))

/-- A tag cannot stand across a place where another one starts. -/
theorem apart_of_head (hp : IsTag p) (x : Text) {y : Text} (hy : y.head? = some '<') :
    Apart p x y := by
  rintro u v hu hv rfl - hprefix
  obtain ⟨a, u, rfl⟩ := List.exists_cons_of_ne_nil hu
  obtain ⟨d, v, rfl⟩ := List.exists_cons_of_ne_nil hv
  obtain ⟨rest, rfl⟩ := hprefix
  obtain rfl : d = '<' := by simpa using hy
  exact hp.tail (by simp)

/-- A tag cannot stand across a place where a block ends. -/
theorem apart_of_last (hp : IsTag p) {x : Text} (hx : ∀ c ∈ x.getLast?, c = '>' ∨ c = '\n')
    (y : Text) : Apart p x y := by
  rintro u v hu hv rfl ⟨w, rfl⟩ -
  have hlast : u.getLast hu ∈ (u ++ v).dropLast := by
    rw [List.dropLast_append_of_ne_nil hv]
    exact List.mem_append_left _ (List.getLast_mem hu)
  obtain ⟨hclose, hline⟩ := hp.body _ hlast
  rcases hx (u.getLast hu) (by simp [List.getLast?_append, List.getLast?_eq_some_getLast hu]) with
    h | h
  · exact hclose h
  · exact hline h

end IsTag

theorem occurrences_self {p : Text} (hp : p ≠ []) : occurrences p p = 1 := by
  obtain ⟨c, cs, rfl⟩ := List.exists_cons_of_ne_nil hp
  have hrest : occurrences (c :: cs) cs = 0 := by
    rw [occurrences_eq_zero_iff hp]
    exact fun h => absurd h.length_le (by simp)
  rw [occurrences_cons_pos (List.prefix_refl _), hrest]

/-! ## Replacing -/

theorem substituteAfter_eq_drop (rule : Rule) (n : Nat) (t : Text) :
    substituteAfter rule n t = substituteAfter rule 0 (t.drop n) := by
  induction n generalizing t with
  | zero => rfl
  | succ n ih =>
    cases t with
    | nil => rfl
    | cons c cs => exact ih cs

section Replace

variable {old new : Text}

@[simp]
theorem replace_nil : replace old new [] = [] := rfl

/-- An occurrence at the start of a text is replaced, and what follows is replaced on its own. -/
theorem replace_append_self (hold : old ≠ []) (r : Text) :
    replace old new (old ++ r) = new ++ replace old new r := by
  obtain ⟨c, cs, rfl⟩ := List.exists_cons_of_ne_nil hold
  have hhere : after? (c :: cs) (c :: (cs ++ r)) = some r := after?_eq_some_iff.2 rfl
  rw [replace, substitute, List.cons_append, substituteAfter, hhere, Option.map_some]
  dsimp only
  rw [substituteAfter_eq_drop, List.length_cons, Nat.add_sub_cancel, List.drop_left]
  rfl

theorem replace_cons {c : Char} {cs : Text} (h : ¬ old <+: c :: cs) :
    replace old new (c :: cs) = c :: replace old new cs := by
  have hhere : after? old (c :: cs) = none :=
    Option.not_isSome_iff_eq_none.1 fun hsome => h (isSome_after?_iff.1 hsome)
  rw [replace, substitute, substituteAfter, hhere]
  rfl

/-- Induction along the places at which a text is replaced. -/
theorem replaceRec {motive : Text → Prop} (hold : old ≠ []) (nil : motive [])
    (here : ∀ r, motive r → motive (old ++ r))
    (cons : ∀ c cs, ¬ old <+: c :: cs → motive cs → motive (c :: cs)) (t : Text) : motive t := by
  induction hn : t.length using Nat.strongRecOn generalizing t with
  | ind n ih =>
    subst hn
    cases t with
    | nil => exact nil
    | cons c cs =>
      by_cases h : old <+: c :: cs
      · obtain ⟨r, hr⟩ := h
        rw [← hr]
        refine here r (ih _ ?_ r rfl)
        have hpos := List.length_pos_iff.2 hold
        rw [← hr, List.length_append]
        omega
      · exact cons c cs h (ih _ (Nat.lt_succ_self _) cs rfl)

theorem Apart.replace_append (hold : old ≠ []) {x y : Text} (h : Apart old x y) :
    replace old new (x ++ y) = replace old new x ++ replace old new y := by
  induction x using replaceRec hold with
  | nil => rfl
  | here r ih =>
    rw [List.append_assoc, replace_append_self hold, replace_append_self hold, List.append_assoc,
      ih (h.of_suffix (List.suffix_append _ _))]
  | cons c cs hhere ih =>
    rw [replace_cons hhere, List.cons_append, replace_cons (mt h.prefix_append_iff.1 hhere),
      List.cons_append, ih (h.of_suffix (List.suffix_cons c cs))]

theorem replace_eq_self (hold : old ≠ []) {t : Text} (h : ¬ old <:+: t) :
    replace old new t = t := by
  induction t using replaceRec hold with
  | nil => rfl
  | here r => exact absurd (List.prefix_append old r).isInfix h
  | cons c cs hhere ih =>
    rw [replace_cons hhere, ih fun hrest => h (List.infix_cons hrest)]

/-- Where the replaced and the replacing text start with `<`, a text without it stands at the start
before and after. -/
theorem prefix_replace_iff (hold : old.head? = some '<') (hnew : new.head? = some '<')
    {q t : Text} (hq : '<' ∉ q) : q <+: replace old new t ↔ q <+: t := by
  have hne : old ≠ [] := by
    rintro rfl
    cases hold
  -- the first character of both is `<`, at which `q` cannot go on
  have hstart : ∀ {d : Char} {ds z r : Text}, z.head? = some '<' → d :: ds <+: z ++ r →
      d = '<' := by
    rintro d ds (_ | ⟨c, cs⟩) r hz hprefix
    · cases hz
    · rw [List.cons_append, List.cons_prefix_cons] at hprefix
      exact hprefix.1.trans (Option.some.inj hz)
  induction t using replaceRec hne generalizing q with
  | nil => rfl
  | here r =>
    rw [replace_append_self hne]
    cases q with
    | nil => simp
    | cons d ds =>
      have hd : d ≠ '<' := fun h => hq (h ▸ List.mem_cons_self)
      exact ⟨fun h => absurd (hstart hnew h) hd, fun h => absurd (hstart hold h) hd⟩
  | cons c cs hhere ih =>
    rw [replace_cons hhere]
    cases q with
    | nil => simp
    | cons d ds =>
      rw [List.cons_prefix_cons, List.cons_prefix_cons]
      exact and_congr_right fun _ => ih fun h => hq (List.mem_cons_of_mem d h)

/-- A tag that is not in the replaced tag stands at the start before and after, unless the text
starts with the replaced tag. -/
theorem IsTag.prefix_cons_replace_iff {p : Text} (hp : IsTag p) (hold : IsTag old)
    (hnew : IsBlock new) (c : Char) (cs : Text) :
    p <+: c :: replace old new cs ↔ p <+: c :: cs := by
  obtain ⟨d, q, rfl⟩ := List.exists_cons_of_ne_nil hp.ne_nil
  rw [List.cons_prefix_cons, List.cons_prefix_cons]
  exact and_congr_right fun _ => prefix_replace_iff hold.head hnew.head hp.tail

/-- **Replacing a tag by a block** adds the tags of the block, as often as the tag stands. -/
theorem occurrences_replace {p : Text} (hp : IsTag p) (hold : IsTag old) (hnew : IsBlock new)
    (hpold : ¬ p <:+: old) (t : Text) :
    occurrences p (replace old new t) =
      occurrences p t + occurrences old t * occurrences p new := by
  have hzero := hp.occurrences_eq_zero hpold
  induction t using replaceRec hold.ne_nil with
  | nil => simp [occurrences]
  | here r ih =>
    rw [replace_append_self hold.ne_nil, (hp.apart_of_last hnew.last _).occurrences_append, ih,
      (hp.apart_of_last hold.isBlock.last _).occurrences_append, hzero,
      (hold.apart_of_last hold.isBlock.last _).occurrences_append,
      occurrences_self hold.ne_nil, Nat.add_mul]
    omega
  | cons c cs hhere ih =>
    rw [replace_cons hhere, occurrences_cons_neg hhere, occurrences, occurrences, ih,
      Nat.add_assoc]
    simp only [hp.prefix_cons_replace_iff hold hnew]

/-- Whatever stands in a block stands there as often as the block is put in. -/
theorem le_occurrences_replace (hold : IsTag old) (p t : Text) :
    occurrences old t * occurrences p new ≤ occurrences p (replace old new t) := by
  induction t using replaceRec hold.ne_nil with
  | nil => simp [occurrences]
  | here r ih =>
    rw [replace_append_self hold.ne_nil,
      (hold.apart_of_last hold.isBlock.last _).occurrences_append, occurrences_self hold.ne_nil,
      Nat.add_mul]
    have := occurrences_append_le p new (replace old new r)
    omega
  | cons c cs hhere ih =>
    rw [replace_cons hhere, occurrences_cons_neg hhere, occurrences]
    omega

/-- Another block stands at no place of a tag. -/
theorem IsTag.occurrences_append_of_isBlock (hold : IsTag old) {p : Text} (hp : IsBlock p)
    (hpold : ¬ old <:+: p) (r : Text) : occurrences p (old ++ r) = occurrences p r := by
  have hinside : ∀ x : Text, '<' ∉ x → occurrences p (x ++ r) = occurrences p r := by
    intro x hx
    induction x with
    | nil => rfl
    | cons c cs ih =>
      rw [List.cons_append, occurrences_cons_neg, ih fun h => hx (List.mem_cons_of_mem c h)]
      rintro ⟨rest, hrest⟩
      have hhead := congrArg List.head? hrest
      rw [List.head?_append, hp.head, Option.some_or, List.head?_cons, Option.some.injEq] at hhead
      exact hx (hhead ▸ List.mem_cons_self)
  have hstart : ¬ p <+: old ++ r := by
    intro h
    rcases List.prefix_or_prefix_of_prefix h (List.prefix_append old r) with ⟨w, rfl⟩ | hprefix
    · have hne : p ≠ [] := by
        rintro rfl
        exact absurd hp.head (by simp)
      have hw : w ≠ [] := by
        rintro rfl
        exact hpold (by simp)
      exact hold.apart_of_last hp.last w p w hne hw rfl (List.suffix_refl p) (List.prefix_refl w)
    · exact hpold hprefix.isInfix
  obtain ⟨c, cs, rfl⟩ := List.exists_cons_of_ne_nil hold.ne_nil
  rw [List.cons_append] at hstart ⊢
  rw [occurrences_cons_neg hstart, hinside cs hold.tail]

/-- A block in which nothing is replaced stays where it stands. -/
theorem occurrences_le_replace (hold : IsTag old) {p : Text} (hp : IsBlock p)
    (hpold : ¬ old <:+: p) (t : Text) :
    occurrences p t ≤ occurrences p (replace old new t) := by
  induction t using replaceRec hold.ne_nil with
  | nil => exact Nat.le_refl _
  | here r ih =>
    rw [hold.occurrences_append_of_isBlock hp hpold, replace_append_self hold.ne_nil]
    have := occurrences_append_le p new (replace old new r)
    omega
  | cons c cs hhere ih =>
    have hplace : p <+: c :: cs → p <+: c :: replace old new cs := by
      rintro ⟨r, hr⟩
      rw [← replace_cons hhere, ← hr,
        (hold.apart_of_last hp.last r).replace_append hold.ne_nil,
        replace_eq_self hold.ne_nil hpold]
      exact List.prefix_append _ _
    rw [replace_cons hhere, occurrences, occurrences]
    grind

/-- Up to the first replacing block there is no replaced text. -/
theorem not_infix_of_prefix_replace (hold : IsTag old) (hnew : IsBlock new) {f : Text}
    (hf : f <+: new) (hfold : ¬ old <:+: f) {q t : Text} (hq : q <+: replace old new t)
    (hfq : ¬ f <:+: q) : ¬ old <:+: q := by
  induction t using replaceRec hold.ne_nil generalizing q with
  | nil =>
    rw [replace_nil, List.prefix_nil] at hq
    subst hq
    exact fun h => hold.ne_nil (List.eq_nil_of_infix_nil h)
  | here r =>
    rw [replace_append_self hold.ne_nil] at hq
    rcases List.prefix_or_prefix_of_prefix hq (hf.trans (List.prefix_append _ _)) with h | h
    · exact fun hin => hfold (hin.trans h.isInfix)
    · exact absurd h.isInfix hfq
  | cons c cs hhere ih =>
    rw [replace_cons hhere] at hq
    cases q with
    | nil => exact fun h => hold.ne_nil (List.eq_nil_of_infix_nil h)
    | cons d ds =>
      intro hin
      rcases List.infix_cons_iff.1 hin with h | h
      · exact hhere ((hold.prefix_cons_replace_iff hold hnew c cs).1 (h.trans hq))
      · exact ih (List.cons_prefix_cons.1 hq).2 (fun h' => hfq (List.infix_cons h')) h

/-- **A text is torn** by a replacement inside of it, unless it has the beginning of the replacing
block itself. -/
theorem not_infix_replace (hold : IsTag old) (hnew : IsBlock new) {f o p : Text} (hf : f <+: new)
    (hfold : ¬ old <:+: f) (ho : IsTag o) (honew : ¬ o <:+: new) (hop : o <+: p)
    (hpold : old <:+: p) (hfp : ¬ f <:+: p) (t : Text) : ¬ p <:+: replace old new t := by
  have hprefix : ∀ t, ¬ p <+: replace old new t := fun t h =>
    not_infix_of_prefix_replace hold hnew hf hfold h hfp hpold
  induction t using replaceRec hold.ne_nil with
  | nil => exact fun h => hprefix [] (by rw [replace_nil, List.eq_nil_of_infix_nil h])
  | here r ih =>
    rw [replace_append_self hold.ne_nil, List.infix_append_iff]
    rintro (h | h | ⟨u, v, rfl, hu, hv⟩)
    · exact honew (hop.isInfix.trans h)
    · exact ih h
    · obtain ⟨w, hw⟩ := hop
      rcases List.append_eq_append_iff.1 hw with ⟨a, rfl, -⟩ | ⟨b, rfl, rfl⟩
      · exact honew ((List.prefix_append o a).isInfix.trans hu.isInfix)
      · rcases eq_or_ne u [] with rfl | hune
        · exact hprefix r hv
        · rcases eq_or_ne b [] with rfl | hbne
          · exact honew (by simpa using hu.isInfix)
          · exact ho.apart_of_last hnew.last _ u b hune hbne rfl hu
              ((List.prefix_append b w).trans hv)
  | cons c cs hhere ih =>
    rw [replace_cons hhere, List.infix_cons_iff]
    rintro (h | h)
    · exact hprefix (c :: cs) (by rwa [replace_cons hhere])
    · exact ih h

end Replace

end PagePress.Text

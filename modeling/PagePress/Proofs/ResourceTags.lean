import PagePress.Proofs.Blocks

/-!
# The resources that a bundled page still names

A script or a stylesheet that is remote, or whose file is not there, is not bundled.  What happens
to its tag is not decided by that: one rule cuts every script, every style and every stylesheet link
that is closed by itself out of the text of the page.  So most resources that are not bundled are
lost, and this module says which ones stay.

* `Text.resourceTags` are the tags of scripts and links of a text, and `Text.Names` says that an
  address stands in one of them.
* `Text.worksOutside` tells whether a rule replaces outside of tags only.  Then a tag is either kept
  as it is or replaced as a whole: `Text.mem_resourceTags_replace` for the bundles that are put in,
  `Bundle.resourceTags_cut` for the resources that are cut out.
* `Bundle.mem_leftTags` says which tags are left: those of scripts without an end tag, and those of
  links that are no stylesheet closed by itself.
* `Bundler.unbundled_names_iff` says which resources that are not bundled stay in the page.

The argument is a walk along the text that knows whether it is between a `<` and the next `>`.
-/

set_option autoImplicit false

namespace PagePress

namespace Text

/-! ## Tags -/

/-- What follows `opening` in the tag at the start of a text, if the name of the tag ends there. -/
def tagAt? (opening t : Text) : Option Text := do
  let rest ← dropCaseless? opening (t.takeWhile (· != '>'))
  if t.contains '>' && rest.head?.all (fun c => isBlank c || c == '/') then some rest else none

/-- How the tag of a script starts. -/
def scriptName : Text := "<script"

/-- How the tag of a link starts. -/
def linkName : Text := "<link"

/-- What follows the name in the tag of a script or a link at the start of a text. -/
def resourceTag? (t : Text) : Option Text := (tagAt? scriptName t).or (tagAt? linkName t)

/-- What follows the name in the tags of scripts and links of a text, in order. -/
def resourceTags : Text → List Text
  | [] => []
  | c :: cs => (resourceTag? (c :: cs)).toList ++ resourceTags cs

/-- An address stands in the tag of a script or a link. -/
def Names (t address : Text) : Prop := ∃ tag ∈ resourceTags t, address <:+: tag

instance (t address : Text) : Decidable (Names t address) :=
  inferInstanceAs (Decidable (∃ tag ∈ resourceTags t, address <:+: tag))

/-- A character that is no small letter stands for itself only. -/
theorem eq_of_sameLetter {p c : Char} (hp : p.isLower = false) (h : sameLetter p c = true) :
    c = p := by
  have hlower : c.toLower = p → c = p := by
    intro hc
    delta Char.toLower at hc
    split at hc
    · subst hc
      delta Char.isLower at hp
      grind [UInt32.toNat_add, Char.toNat_val, UInt32.le_iff_toNat_le]
    · exact hc
  have hletter : ∀ q : Char, q.isLower = true → p ≠ q := by
    rintro q hq rfl
    exact absurd (hp.symm.trans hq) (by decide)
  have hi := hletter 'i' (by decide)
  have hs := hletter 's' (by decide)
  have hk := hletter 'k' (by decide)
  simp only [sameLetter, Bool.or_eq_true, Bool.and_eq_true, beq_iff_eq] at h
  grind

theorem tagAt?_of_ne {opening : Text} (ho : opening.head? = some '<') {c : Char} (hc : c ≠ '<')
    (cs : Text) : tagAt? opening (c :: cs) = none := by
  obtain ⟨ps, rfl⟩ : ∃ ps, opening = '<' :: ps := by
    cases opening with
    | nil => cases ho
    | cons p ps => exact ⟨ps, by rw [Option.some.inj ho]⟩
  have hdrop : dropCaseless? ('<' :: ps) ((c :: cs).takeWhile (· != '>')) = none := by
    rw [List.takeWhile_cons]
    split
    · rw [dropCaseless?, if_neg (mt (eq_of_sameLetter (by decide)) hc)]
    · rfl
  rw [tagAt?, hdrop]
  rfl

theorem takeWhile_append_cons {u : Text} (hu : '>' ∉ u) (v : Text) :
    (u ++ '>' :: v).takeWhile (· != '>') = u := takeWhile_append_stop (bne_of_not_mem hu) rfl v

/-- A tag of a script or a link starts with a `<`. -/
theorem resourceTag?_of_ne {c : Char} (hc : c ≠ '<') (cs : Text) :
    resourceTag? (c :: cs) = none := by
  rw [resourceTag?, tagAt?_of_ne (by decide) hc, tagAt?_of_ne (by decide) hc, Option.none_or]

/-- A tag depends on the text up to the next `>` alone. -/
theorem resourceTag?_congr {s t : Text} (htake : s.takeWhile (· != '>') = t.takeWhile (· != '>'))
    (hmem : s.contains '>' = t.contains '>') : resourceTag? s = resourceTag? t := by
  simp only [resourceTag?, tagAt?, htake, hmem]

/-! ## Inside and outside of tags -/

/-- Whether a place is inside of a tag, if the place before it is. -/
def inTagAfter (inTag : Bool) (c : Char) : Bool :=
  if c = '<' then true else if c = '>' then false else inTag

/-- Whether the end of a text is inside of a tag, if its start is. -/
def endsInTag (inTag : Bool) (t : Text) : Bool := t.foldl inTagAfter inTag

theorem mem_of_endsInTag_eq_false {t : Text} (h : endsInTag true t = false) : '>' ∈ t := by
  induction t with
  | nil => cases h
  | cons c cs ih =>
    by_cases hc : c = '>'
    · simp [hc]
    · refine List.mem_cons_of_mem c (ih ?_)
      have hstep : inTagAfter true c = true := by simp [inTagAfter, hc]
      rwa [endsInTag, List.foldl_cons, hstep] at h

theorem endsInTag_of_getLast? {t : Text} (h : t.getLast? = some '>') (inTag : Bool) :
    endsInTag inTag t = false := by
  obtain ⟨s, rfl⟩ := List.getLast?_eq_some_iff.1 h
  rw [endsInTag, List.foldl_append]
  rfl

theorem endsInTag_append {inTag : Bool} {x : Text} (h : endsInTag inTag x = false) (y : Text) :
    endsInTag inTag (x ++ y) = endsInTag false y := by
  rw [endsInTag] at h
  rw [endsInTag, List.foldl_append, h, endsInTag]

/-- Without a `<` there is no tag. -/
theorem outside_of_not_mem {t : Text} (h : '<' ∉ t) :
    endsInTag false t = false ∧ resourceTags t = [] := by
  induction t with
  | nil => exact ⟨rfl, rfl⟩
  | cons c cs ih =>
    obtain ⟨hc, hcs⟩ : '<' ≠ c ∧ '<' ∉ cs := by simpa using h
    have hstep : inTagAfter false c = false := by simp [inTagAfter, hc.symm]
    rw [endsInTag, List.foldl_cons, hstep, resourceTags, resourceTag?_of_ne hc.symm]
    exact ih hcs

/-- **The tags of two texts** are the tags of the texts put together, if the first one does not end
inside of a tag. -/
theorem resourceTags_append {inTag : Bool} {x : Text} (h : endsInTag inTag x = false) (y : Text) :
    resourceTags (x ++ y) = resourceTags x ++ resourceTags y := by
  induction x generalizing inTag with
  | nil => rfl
  | cons c cs ih =>
    have hhere : resourceTag? (c :: (cs ++ y)) = resourceTag? (c :: cs) := by
      by_cases hc : c = '<'
      · subst hc
        obtain ⟨u, v, rfl, hu⟩ := List.eq_append_cons_of_mem (mem_of_endsInTag_eq_false h)
        have htag : '>' ∉ '<' :: u := by simpa using hu
        refine resourceTag?_congr ?_ (by simp)
        have hwhole := takeWhile_append_cons htag (v ++ y)
        have hfirst := takeWhile_append_cons htag v
        rw [List.cons_append] at hwhole hfirst
        rw [List.append_assoc, List.cons_append, hwhole, hfirst]
      · rw [resourceTag?_of_ne hc, resourceTag?_of_ne hc]
    rw [List.cons_append, resourceTags, resourceTags, hhere, ih h, List.append_assoc]

/-! ## Replacing outside of tags -/

/-- Whether all places that a rule accepts are outside of tags, in a text of which the first `skip`
characters are already replaced. -/
def worksOutside (rule : Rule) : Nat → Bool → Text → Bool
  | _, _, [] => true
  | skip + 1, inTag, _ :: cs => worksOutside rule skip inTag cs
  | 0, inTag, c :: cs =>
    match rule (c :: cs) with
    | some (_, n) => !inTag && worksOutside rule (n - 1) false cs
    | none => worksOutside rule 0 (inTagAfter inTag c) cs

theorem worksOutside_eq_drop (rule : Rule) (n : Nat) (inTag : Bool) (t : Text) :
    worksOutside rule n inTag t = worksOutside rule 0 inTag (t.drop n) := by
  induction n generalizing t with
  | zero => rfl
  | succ n ih =>
    cases t with
    | nil => rfl
    | cons c cs => exact ih cs

/-- A text that starts inside of a tag keeps the rest of the tag. -/
theorem substituteAfter_of_inTag {rule : Rule} {t : Text}
    (h : worksOutside rule 0 true t = true) :
    (substituteAfter rule 0 t).takeWhile (· != '>') = t.takeWhile (· != '>') ∧
      (substituteAfter rule 0 t).contains '>' = t.contains '>' := by
  induction t with
  | nil => exact ⟨rfl, rfl⟩
  | cons c cs ih =>
    rw [worksOutside] at h
    rw [substituteAfter]
    cases hrule : rule (c :: cs) with
    | some found =>
      rw [hrule] at h
      cases h
    | none =>
      rw [hrule] at h
      dsimp only at h ⊢
      by_cases hc : c = '>'
      · simp [hc]
      · have hstep : inTagAfter true c = true := by simp [inTagAfter, hc]
        rw [hstep] at h
        obtain ⟨htake, hmem⟩ := ih h
        rw [List.takeWhile_cons, List.takeWhile_cons, htake, List.contains_cons,
          List.contains_cons, hmem]
        exact ⟨rfl, rfl⟩

/-- A kept character has the tag at its place kept. -/
theorem resourceTag?_cons_substituteAfter {rule : Rule} {inTag : Bool} {c : Char} {cs : Text}
    (h : worksOutside rule 0 (inTagAfter inTag c) cs = true) :
    resourceTag? (c :: substituteAfter rule 0 cs) = resourceTag? (c :: cs) := by
  by_cases hc : c = '<'
  · subst hc
    obtain ⟨htake, hmem⟩ := substituteAfter_of_inTag h
    refine resourceTag?_congr ?_ ?_
    · rw [List.takeWhile_cons, List.takeWhile_cons, htake]
    · rw [List.contains_cons, List.contains_cons, hmem]
  · rw [resourceTag?_of_ne hc, resourceTag?_of_ne hc]

/-- The rule by which every occurrence of `old` is replaced. -/
def replaceRule (old new : Text) : Rule := fun rest =>
  (after? old rest).map fun _ => (new, old.length)

theorem replace_eq_substituteAfter (old new t : Text) :
    replace old new t = substituteAfter (replaceRule old new) 0 t := rfl

/-- **Replacing a tag outside of tags** adds the tags of the block that is put in. -/
theorem mem_resourceTags_replace {old new : Text} (hold : IsTag old) (hnone : resourceTags old = [])
    (hnew : endsInTag false new = false) {inTag : Bool} {t : Text}
    (h : worksOutside (replaceRule old new) 0 inTag t = true) (tag : Text) :
    tag ∈ resourceTags (replace old new t) ↔
      tag ∈ resourceTags t ∨ old <:+: t ∧ tag ∈ resourceTags new := by
  induction t using replaceRec hold.ne_nil generalizing inTag with
  | nil => simp [resourceTags, hold.ne_nil]
  | here r ih =>
    have hrest : worksOutside (replaceRule old new) 0 false r = true := by
      obtain ⟨c, cs, rfl⟩ := List.exists_cons_of_ne_nil hold.ne_nil
      have hhere : replaceRule (c :: cs) new (c :: (cs ++ r)) = some (new, cs.length + 1) := by
        rw [replaceRule, after?_eq_some_iff.2 (List.cons_append ..).symm]
        rfl
      rw [List.cons_append, worksOutside, hhere] at h
      dsimp only at h
      rw [worksOutside_eq_drop, Nat.add_sub_cancel, List.drop_left] at h
      exact (Bool.and_eq_true_iff.1 h).2
    have hend := endsInTag_of_getLast? hold.last false
    rw [replace_append_self hold.ne_nil, resourceTags_append hnew, resourceTags_append hend, hnone,
      List.nil_append, List.mem_append, ih hrest]
    have hin : old <:+: old ++ r := (List.prefix_append old r).isInfix
    tauto
  | cons c cs hhere ih =>
    have hnot : replaceRule old new (c :: cs) = none := by
      rw [replaceRule, Option.map_eq_none_iff]
      exact Option.not_isSome_iff_eq_none.1 (mt isSome_after?_iff.1 hhere)
    rw [worksOutside, hnot] at h
    rw [replace_cons hhere, resourceTags, resourceTags, replace_eq_substituteAfter,
      resourceTag?_cons_substituteAfter h, ← replace_eq_substituteAfter, List.mem_append,
      List.mem_append, ih h, List.infix_cons_iff]
    tauto

theorem names_replace_iff {old new : Text} (hold : IsTag old) (hnone : resourceTags old = [])
    (hnew : endsInTag false new = false) {t : Text}
    (h : worksOutside (replaceRule old new) 0 false t = true) (address : Text) :
    Names (replace old new t) address ↔ Names t address ∨ old <:+: t ∧ Names new address := by
  simp only [Names, mem_resourceTags_replace hold hnone hnew h, or_and_right, exists_or, and_assoc,
    exists_and_left]

/-! ## The tag at a place -/

theorem dropCaseless?_append (p q t : Text) :
    dropCaseless? (p ++ q) t = (dropCaseless? p t).bind (dropCaseless? q) := by
  induction p generalizing t with
  | nil => rfl
  | cons d ds ih =>
    cases t with
    | nil => rfl
    | cons c cs =>
      rw [List.cons_append, dropCaseless?, dropCaseless?]
      split
      · exact ih cs
      · rfl

theorem ne_of_sameLetter {p c : Char} (hp : p ≠ '>') (h : sameLetter p c = true) : c ≠ '>' := by
  rintro rfl
  have hlower : ('>' : Char).toLower = '>' := by decide
  simp [sameLetter, hlower, Ne.symm hp] at h

/-- A text without a `>` is found before the next `>`. -/
theorem dropCaseless?_takeWhile {p : Text} (hp : '>' ∉ p) (t : Text) :
    dropCaseless? p (t.takeWhile (· != '>')) =
      (dropCaseless? p t).map (·.takeWhile (· != '>')) := by
  induction p generalizing t with
  | nil => rfl
  | cons d ds ih =>
    obtain ⟨hd, hds⟩ : '>' ≠ d ∧ '>' ∉ ds := by simpa using hp
    cases t with
    | nil => rfl
    | cons c cs =>
      by_cases hletter : sameLetter d c = true
      · have hc : (c != '>') = true := bne_iff_ne.2 (ne_of_sameLetter hd.symm hletter)
        rw [List.takeWhile_cons, if_pos hc, dropCaseless?, dropCaseless?, if_pos hletter,
          if_pos hletter, ih hds]
      · rw [dropCaseless?, if_neg hletter, List.takeWhile_cons]
        split
        · rw [dropCaseless?, if_neg hletter]
          rfl
        · rfl

theorem mem_of_dropCaseless? {p t rest : Text} (hp : '>' ∉ p) (h : dropCaseless? p t = some rest)
    (ht : '>' ∈ t) : '>' ∈ rest := by
  induction p generalizing t with
  | nil => rwa [← Option.some.inj h]
  | cons d ds ih =>
    obtain ⟨hd, hds⟩ : '>' ≠ d ∧ '>' ∉ ds := by simpa using hp
    cases t with
    | nil => cases h
    | cons c cs =>
      rw [dropCaseless?] at h
      split at h
      · rename_i hletter
        have hc := ne_of_sameLetter hd.symm hletter
        exact ih hds h (by simpa [hc.symm] using ht)
      · cases h

/-- A tag is followed by its `>`. -/
theorem dropCaseless?_of_tagAt? {opening t tag : Text} (ho : '>' ∉ opening)
    (h : tagAt? opening t = some tag) :
    '>' ∉ tag ∧ ∃ behind, dropCaseless? opening t = some (tag ++ '>' :: behind) := by
  rw [tagAt?, dropCaseless?_takeWhile ho] at h
  cases hrest : dropCaseless? opening t with
  | none =>
    rw [hrest] at h
    cases h
  | some rest =>
    rw [hrest, Option.map_some, Option.bind_eq_bind, Option.bind_some] at h
    split at h
    · rename_i hcond
      have hmem : '>' ∈ t := by simpa using (Bool.and_eq_true_iff.1 hcond).1
      obtain ⟨u, v, hv, hu⟩ :=
        List.eq_append_cons_of_mem (mem_of_dropCaseless? ho hrest hmem)
      rw [hv, takeWhile_append_cons hu, Option.some.injEq] at h
      exact ⟨h ▸ hu, v, by rw [hv, h]⟩
    · cases h

end Text

namespace Bundle

open Text

/-! ## What is left of a page -/

/-- The tags of scripts and links at the places of a page that are not cut out, if the first `skip`
characters are. -/
def leftTags : Nat → Text → List Text
  | _, [] => []
  | skip + 1, _ :: cs => leftTags skip cs
  | 0, c :: cs =>
    match cutResource (c :: cs) with
    | some (_, n) => leftTags (n - 1) cs
    | none => (resourceTag? (c :: cs)).toList ++ leftTags 0 cs

theorem cutElement_fst {opening closing t new : Text} {n : Nat}
    (h : cutElement opening closing t = some (new, n)) : new = [] := by
  simp only [cutElement, Option.bind_eq_bind, Option.bind_eq_some_iff] at h
  obtain ⟨rest, -, h⟩ := h
  split at h
  · obtain ⟨m, -, h⟩ := Option.bind_eq_some_iff.1 h
    exact (Prod.mk.inj (Option.some.inj h)).1.symm
  · cases h

theorem cutLink_fst {t new : Text} {n : Nat} (h : cutLink t = some (new, n)) : new = [] := by
  simp only [cutLink, Option.bind_eq_bind, Option.bind_eq_some_iff] at h
  obtain ⟨rest, -, body, -, h⟩ := h
  split at h
  · exact (Prod.mk.inj (Option.some.inj h)).1.symm
  · cases h

theorem cutResource_eq_or (t : Text) :
    cutResource t = (cutElement "<script" "</script>" t).or
      ((cutElement "<style" "</style>" t).or (cutLink t)) := by
  rw [cutResource]
  cases cutElement "<script" "</script>" t with
  | some found => rfl
  | none => cases cutElement "<style" "</style>" t <;> rfl

/-- What is cut out is replaced by nothing. -/
theorem cutResource_fst {t new : Text} {n : Nat} (h : cutResource t = some (new, n)) :
    new = [] := by
  rw [cutResource_eq_or, Option.or_eq_some_iff, Option.or_eq_some_iff] at h
  rcases h with h | ⟨-, h | ⟨-, h⟩⟩
  · exact cutElement_fst h
  · exact cutElement_fst h
  · exact cutLink_fst h

/-- **Cutting outside of tags** leaves the tags at the places that are not cut out. -/
theorem resourceTags_cut {skip : Nat} {inTag : Bool} {t : Text}
    (h : worksOutside cutResource skip inTag t = true) :
    resourceTags (substituteAfter cutResource skip t) = leftTags skip t := by
  induction t generalizing skip inTag with
  | nil => rw [substituteAfter, leftTags, resourceTags]
  | cons c cs ih =>
    cases skip with
    | succ skip => exact ih h
    | zero =>
      rw [worksOutside] at h
      rw [substituteAfter, leftTags]
      cases hcut : cutResource (c :: cs) with
      | some found =>
        obtain ⟨new, n⟩ := found
        rw [hcut] at h
        rw [cutResource_fst hcut]
        exact ih (Bool.and_eq_true_iff.1 h).2
      | none =>
        rw [hcut] at h
        dsimp only
        rw [resourceTags, resourceTag?_cons_substituteAfter h, ih h]

/-- The tag at the start of a text is one of a script, and no end tag of a script follows. -/
def IsUnclosedScript (t tag : Text) : Prop :=
  ∃ behind, dropCaseless? scriptName t = some (tag ++ '>' :: behind) ∧
    findCaseless? "</script>" behind = none

/-- A tag of a link names a stylesheet and is closed by itself. -/
def isClosedStylesheet : Text → Bool
  | ' ' :: inside => (before? "/" (stripEnd inside)).any namesStylesheet
  | _ => false

/-- The tag at the start of a text is one of a link, but not of a stylesheet closed by itself. -/
def IsOpenLink (t tag : Text) : Prop :=
  (∃ behind, dropCaseless? linkName t = some (tag ++ '>' :: behind)) ∧
    isClosedStylesheet tag = false

section Tag

variable {opening t tag behind : Text} (htag : '>' ∉ tag)
include htag

theorem cutElement_eq_map (h : dropCaseless? opening t = some (tag ++ '>' :: behind))
    (closing : Text) :
    cutElement opening closing t =
      (findCaseless? closing behind).map fun m => ([], opening.length + tag.length + 1 + m) := by
  rw [cutElement, h, Option.bind_eq_bind, Option.bind_some, takeWhile_append_cons htag]
  dsimp only
  rw [List.drop_left]
  dsimp only
  cases findCaseless? closing behind <;> rfl

theorem isSome_cutLink (h : dropCaseless? linkName t = some (tag ++ '>' :: behind)) :
    (cutLink t).isSome = isClosedStylesheet tag := by
  have hname : ("<link " : Text) = linkName ++ [' '] := by decide +kernel
  have hdrop : dropCaseless? "<link " t = dropCaseless? [' '] (tag ++ '>' :: behind) :=
    (congrArg (dropCaseless? · t) hname).trans (by rw [dropCaseless?_append, h, Option.bind_some])
  rw [cutLink, hdrop]
  cases tag with
  | nil => rfl
  | cons c inside =>
    rw [List.cons_append, dropCaseless?]
    by_cases hc : c = ' '
    · subst hc
      have hinside : '>' ∉ inside := fun hmem => htag (List.mem_cons_of_mem _ hmem)
      rw [if_pos (by decide), dropCaseless?, Option.bind_eq_bind, Option.bind_some,
        takeWhile_append_cons hinside, isClosedStylesheet]
      dsimp only
      cases before? "/" (stripEnd inside) with
      | none => rfl
      | some body => cases hbody : namesStylesheet body <;> simp [hbody]
    · rw [if_neg (mt (eq_of_sameLetter (by decide)) hc), isClosedStylesheet]
      · rfl
      · rintro inside' ⟨⟩
        exact hc rfl

end Tag

/-- A tag that is not cut out is of one of the two kinds. -/
theorem isUnclosedScript_or_isOpenLink {t tag : Text} (hcut : cutResource t = none)
    (h : resourceTag? t = some tag) : IsUnclosedScript t tag ∨ IsOpenLink t tag := by
  rw [cutResource_eq_or, Option.or_eq_none_iff, Option.or_eq_none_iff] at hcut
  obtain ⟨hscript, -, hlink⟩ := hcut
  rw [resourceTag?, Option.or_eq_some_iff] at h
  rcases h with h | ⟨-, h⟩
  · obtain ⟨htag, behind, hdrop⟩ := dropCaseless?_of_tagAt? (by decide) h
    left
    refine ⟨behind, hdrop, ?_⟩
    have hmap := cutElement_eq_map htag hdrop "</script>"
    exact Option.map_eq_none_iff.1 (hmap.symm.trans hscript)
  · obtain ⟨htag, behind, hdrop⟩ := dropCaseless?_of_tagAt? (by decide) h
    right
    refine ⟨⟨behind, hdrop⟩, ?_⟩
    rw [← isSome_cutLink htag hdrop, hlink]
    rfl

theorem mem_leftTags {skip : Nat} {t tag : Text} (h : tag ∈ leftTags skip t) :
    ∃ s, s <:+ t ∧ (IsUnclosedScript s tag ∨ IsOpenLink s tag) := by
  induction t generalizing skip with
  | nil => cases skip <;> cases h
  | cons c cs ih =>
    have hrest : ∀ n, tag ∈ leftTags n cs →
        ∃ s, s <:+ c :: cs ∧ (IsUnclosedScript s tag ∨ IsOpenLink s tag) := by
      intro n hn
      obtain ⟨s, hs, hkind⟩ := ih hn
      exact ⟨s, hs.trans (List.suffix_cons c cs), hkind⟩
    cases skip with
    | succ skip => exact hrest skip h
    | zero =>
      rw [leftTags] at h
      split at h
      · exact hrest _ h
      · rename_i hcut
        rcases List.mem_append.1 h with h | h
        · exact ⟨c :: cs, List.suffix_refl _,
            isUnclosedScript_or_isOpenLink hcut (Option.mem_toList.1 h)⟩
        · exact hrest 0 h

/-! ## What is put into a page -/

namespace Slot

variable (s : Slot)

theorem endsInTag_block (code : Text) : endsInTag false (s.block code) = false :=
  endsInTag_of_getLast? (by simp [block, s.isTag_ending.last]) false

theorem endsInTag_place : endsInTag false s.place = false :=
  endsInTag_of_getLast? s.isTag_place.last false

theorem endsInTag_filling (code : Text) : endsInTag false (s.filling code) = false := by
  rw [filling, endsInTag_append (s.endsInTag_block code), endsInTag_append s.endsInTag_place]
  exact (outside_of_not_mem s.not_mem_behind).1

/-- **A bundle names what its block names**, where it is put in. -/
theorem names_insert_iff (hplace : resourceTags s.place = []) {bundle : Option Text} {t : Text}
    (h : ∀ code ∈ bundle, worksOutside (replaceRule s.place (s.filling code)) 0 false t = true)
    (address : Text) :
    Names (s.insert bundle t) address ↔
      Names t address ∨ s.place <:+: t ∧ ∃ code ∈ bundle, Names (s.block code) address := by
  cases bundle with
  | none => simp [insert]
  | some code =>
    have htags : resourceTags (s.filling code) = resourceTags (s.block code) := by
      rw [filling, resourceTags_append (s.endsInTag_block code),
        resourceTags_append s.endsInTag_place, hplace,
        (outside_of_not_mem s.not_mem_behind).2, List.append_nil, List.append_nil]
    rw [insert, names_replace_iff s.isTag_place hplace (s.endsInTag_filling code) (h code rfl)]
    simp [Names, htags]

end Slot

end Bundle

/-! ## Unbundled resources -/

open Text PagePress.Bundle

/-- Nothing is cut out of a page or put into it inside of a tag. -/
structure Draft.WorksOutside (x : Draft) (text : Text) : Prop where
  cut : worksOutside cutResource 0 false text = true
  scripts : ∀ code ∈ x.scripts,
    worksOutside (replaceRule scriptSlot.place (scriptSlot.filling code)) 0 false
      (cutResources text) = true
  styles : ∀ code ∈ x.styles,
    worksOutside (replaceRule styleSlot.place (styleSlot.filling code)) 0 false
      (scriptSlot.insert x.scripts (cutResources text)) = true

namespace Bundler

/-- The addresses of the scripts and stylesheets of a page that are not bundled, because they are
remote or there is no such file. -/
def unbundled (b : Bundler) (path : Text) (nodes : List Node) : List Text :=
  ((Node.selectAll (hasTag "script") nodes).filterMap (·.attribute? "src") ++
    (Node.selectAll isStylesheetLink nodes).filterMap (·.attribute? "href")).filter fun address =>
      !address.isEmpty &&
        (isRemote address || !b.disk.isThere (b.disk.resolve (b.directory path) address))

/-- **A resource that is not bundled stays in the page** exactly if its address stands in a tag that
is not cut out, or in a block that is put in.  No tag of a script stays that has an end tag behind
it, and no tag of a stylesheet that is closed by itself.  The page is the one that is minified and
written. -/
theorem unbundled_names_iff (b : Bundler) {path text : Text} {x : Draft}
    (hx : b.draft path text = .ok x) (hout : x.WorksOutside text) (output : Text) :
    ((b.bundleText path output text).1.result = do
      let page ← b.minify (edit x.scripts x.styles text)
      let place ← b.disk.writePath output
      return [(place, page)]) ∧
    (∀ address ∈ b.unbundled path x.nodes,
      Names (edit x.scripts x.styles text) address ↔
        (∃ tag ∈ leftTags 0 text, address <:+: tag) ∨
        (scriptSlot.place <:+: cutResources text ∧
          ∃ code ∈ x.scripts, Names (scriptSlot.block code) address) ∨
        styleSlot.place <:+: scriptSlot.insert x.scripts (cutResources text) ∧
          ∃ code ∈ x.styles, Names (styleSlot.block code) address) ∧
    ∀ tag ∈ leftTags 0 text, ∃ s, s <:+ text ∧ (IsUnclosedScript s tag ∨ IsOpenLink s tag) := by
  refine ⟨?_, ?_, fun tag => mem_leftTags⟩
  · rw [bundleText_result, hx, ok_bind]
  · intro address _
    have hplaces : resourceTags scriptSlot.place = [] ∧ resourceTags styleSlot.place = [] := by
      decide +kernel
    have hleft : Names (cutResources text) address ↔ ∃ tag ∈ leftTags 0 text, address <:+: tag := by
      rw [Names, cutResources, substitute, resourceTags_cut hout.cut]
    rw [edit_eq, styleSlot.names_insert_iff hplaces.2 hout.styles,
      scriptSlot.names_insert_iff hplaces.1 hout.scripts, hleft, or_assoc]

/-- A page with a remote stylesheet, a remote script and a script of its own keeps the address of
the stylesheet and loses the one of the script. -/
theorem unbundled_names_iff_page :
    let b : Bundler := { service := some { replies := [("var a;" : Text)] }, takesPage := true }
    let text : Text := "<html><head><link rel=\"stylesheet\" href=\"http://a/b.css\"></head>" ++
      "<body><script src=\"http://a/c.js\"></script><script>var a;</script></body></html>"
    ∃ x, b.draft "/site/page.html" text = .ok x ∧ x.WorksOutside text ∧
      b.unbundled "/site/page.html" x.nodes = [("http://a/c.js" : Text), "http://a/b.css"] ∧
      Names (edit x.scripts x.styles text) "http://a/b.css" ∧
      ¬ Names (edit x.scripts x.styles text) "http://a/c.js" := by
  intro b text
  have hdraft : (b.draft "/site/page.html" text).map (fun x =>
      (x.scripts, x.styles, b.unbundled "/site/page.html" x.nodes)) =
      .ok (some ("var a;" : Text), none, [("http://a/c.js" : Text), "http://a/b.css"]) := by
    decide +kernel
  have hpasses : worksOutside cutResource 0 false text = true ∧
      worksOutside (replaceRule scriptSlot.place (scriptSlot.filling "var a;")) 0 false
        (cutResources text) = true := by
    decide +kernel
  have hleft : (∃ tag ∈ leftTags 0 text, ("http://a/b.css" : Text) <:+: tag) ∧
      (∀ tag ∈ leftTags 0 text, ¬ ("http://a/c.js" : Text) <:+: tag) ∧
      ¬ Names (scriptSlot.block "var a;") "http://a/c.js" := by
    decide +kernel
  obtain ⟨x, hx, hfields⟩ := exists_of_map_eq_ok hdraft
  obtain ⟨hscripts, hrest⟩ := Prod.mk.inj hfields
  obtain ⟨hstyles, hunbundled⟩ := Prod.mk.inj hrest
  have hout : x.WorksOutside text := by
    refine ⟨hpasses.1, ?_, ?_⟩
    · rw [hscripts]
      rintro _ ⟨⟩
      exact hpasses.2
    · rw [hstyles]
      rintro _ ⟨⟩
  obtain ⟨-, hnames, -⟩ := unbundled_names_iff b hx hout "/site/out.html"
  rw [hunbundled] at hnames
  refine ⟨x, hx, hout, hunbundled, (hnames _ (by simp)).2 (.inl hleft.1), ?_⟩
  rw [hnames _ (by simp), hscripts, hstyles]
  rintro (⟨tag, htag, hin⟩ | ⟨-, _, ⟨⟩, hname⟩ | ⟨-, _, ⟨⟩, -⟩)
  · exact hleft.2.1 tag htag hin
  · exact hleft.2.2 hname

/-- A page loses a remote script. -/
theorem unbundled_lost :
    let b : Bundler := { takesPage := true }
    let text : Text := "<html><head><script src=\"http://a/b.js\"></script></head><body><p>x</p>" ++
      "</body></html>"
    ∃ x, b.draft "/site/page.html" text = .ok x ∧
      ("http://a/b.js" : Text) ∈ b.unbundled "/site/page.html" x.nodes ∧
      ¬ Names (edit x.scripts x.styles text) "http://a/b.js" := by
  intro b text
  have hdraft : (b.draft "/site/page.html" text).map (fun x =>
      (x.scripts, x.styles, b.unbundled "/site/page.html" x.nodes)) =
      .ok (none, none, [("http://a/b.js" : Text)]) := by
    decide +kernel
  obtain ⟨x, hx, hfields⟩ := exists_of_map_eq_ok hdraft
  obtain ⟨hscripts, hrest⟩ := Prod.mk.inj hfields
  obtain ⟨hstyles, hunbundled⟩ := Prod.mk.inj hrest
  refine ⟨x, hx, hunbundled ▸ List.mem_cons_self, ?_⟩
  rw [hscripts, hstyles]
  decide +kernel

end Bundler

end PagePress

import Mathlib.Data.List.Forall2
import PagePress.Proofs.Fragments
import PagePress.Proofs.Transcript

/-!
# Shorter start tags

Six options shorten the attributes of a start tag: three drop an attribute for what it says, one
drops it if it is empty, one leaves its quotes away and one its value.  They are not independent of
each other.  An attribute that is dropped has no quotes to lose, and whether it is empty is tested
on its value with the quotes that are left.  This file shows that they never work against each
other: turning on more of them makes no tag longer, and brings no attribute back.

* `Options.CoveredBy` is the order on options that the six of them make; the other options may be
  anything.
* `IsDropped.mono` and `length_keptText_le` say what the order means for an attribute that is
  dropped, and for one that is not.
* `length_fragment_le` puts the two together for an attribute, and `length_start_le` for a tag.
-/

set_option autoImplicit false

namespace PagePress

/-- Every shortening of attributes that `o` turns on is turned on by `o'`, too. -/
structure Options.CoveredBy (o o' : Options) : Prop where
  redundant : o.removeRedundantAttributes = true → o'.removeRedundantAttributes = true
  scriptType : o.removeScriptTypeAttributes = true → o'.removeScriptTypeAttributes = true
  styleType : o.removeStyleLinkTypeAttributes = true → o'.removeStyleLinkTypeAttributes = true
  quotes : o.removeAttributeQuotes = true → o'.removeAttributeQuotes = true
  empty : o.removeEmptyAttributes = true → o'.removeEmptyAttributes = true
  flags : o.collapseBooleanAttributes = true → o'.collapseBooleanAttributes = true

variable {o o' : Options}

/-! ## One attribute -/

namespace Attribute

variable {names : List Text} {tag name value : Text}

theorem SaysNothingNew.mono (hle : o.CoveredBy o') (h : SaysNothingNew o names tag name value) :
    SaysNothingNew o' names tag name value := by
  rcases h with ⟨hon, h⟩ | ⟨hon, h⟩ | ⟨hon, h⟩
  · exact .inl ⟨hle.redundant hon, h⟩
  · exact .inr (.inl ⟨hle.scriptType hon, h⟩)
  · exact .inr (.inr ⟨hle.styleType hon, h⟩)

/-- Whether a value is empty is a matter of the cleaned value alone, so that the quotes that are
left away do not bring an empty attribute back. -/
theorem SaysNothing.mono (hle : o.CoveredBy o') (h : SaysNothing o tag name value) :
    SaysNothing o' tag name value := ⟨hle.empty h.1, h.2⟩

theorem IsDropped.mono (hle : o.CoveredBy o') (h : IsDropped o names tag name value) :
    IsDropped o' names tag name value := h.imp (SaysNothingNew.mono hle) (SaysNothing.mono hle)

theorem length_keptText (o : Options) (tag name value : Text) :
    (keptText o tag name value).length =
      if o.collapseBooleanAttributes = true ∧ isFlag name = true then name.length + 1
      else if o.removeAttributeQuotes = true ∧ canUnquote (clean tag name value) = true then
        name.length + (clean tag name value).length + 2
      else name.length + (clean tag name value).length + 4 := by
  rw [keptText]
  split
  · simp
  · split
    · simp
      omega
    · simp
      omega

/-- An attribute that is kept has no longer text with more options. -/
theorem length_keptText_le (hle : o.CoveredBy o') (tag name value : Text) :
    (keptText o' tag name value).length ≤ (keptText o tag name value).length := by
  have hflags := hle.flags
  have hquotes := hle.quotes
  rw [length_keptText, length_keptText]
  grind

/-- **An attribute is not written longer with more options**, where it has a text with both. -/
theorem length_fragment_le (hle : o.CoveredBy o') {a : Attribute} {text text' : Text}
    (h : a.fragment o tag = .ok text) (h' : a.fragment o' tag = .ok text') :
    text'.length ≤ text.length := by
  rcases fragment_eq_ok h' [] with ⟨-, rfl⟩ | ⟨hkeep', rfl⟩
  · exact Nat.zero_le _
  · rcases fragment_eq_ok h [] with ⟨hdrop, -⟩ | ⟨-, rfl⟩
    · exact absurd (hdrop.mono hle) hkeep'
    · exact length_keptText_le hle tag _ _

end Attribute

/-! ## A start tag -/

/-- Texts that are shorter one by one are shorter together. -/
theorem length_flatten_le {ts ts' : List Text}
    (h : List.Forall₂ (fun t t' => t'.length ≤ t.length) ts ts') :
    ts'.flatten.length ≤ ts.flatten.length := by
  induction h with
  | nil => exact Nat.le_refl _
  | cons hhead _ ih =>
    rw [List.flatten_cons, List.flatten_cons, List.length_append, List.length_append]
    exact Nat.add_le_add hhead ih

namespace Run

open Transcript

/-- **More options make no start tag longer.**  Take two sets of options with neither of which a
start tag has a fault, where the second turns on every shortening of attributes that the first turns
on.  Then the tag adds its opening mark, its name, a text for each attribute and its closing mark
with both, and with the second these are together at most as long as with the first.  The same holds
of the text of every attribute, so that one that is written with the second is written with the
first. -/
theorem length_start_le (hle : o.CoveredBy o') (r r' : Run) (tag : Text) (attrs : Attributes)
    (hok : (r.start o tag attrs).2 = none) (hok' : (r'.start o' tag attrs).2 = none) :
    let added (o : Options) : List Text :=
      ['<'] :: tag.lower :: attrs.map (·.fragmentText o tag.lower) ++ [['>']]
    (r.start o tag attrs).1.chunks = r.chunks ++ added o ∧
      (r'.start o' tag attrs).1.chunks = r'.chunks ++ added o' ∧
      (added o').flatten.length ≤ (added o).flatten.length ∧
      ∀ a ∈ attrs, ∃ text text',
        a.fragment o tag.lower = .ok text ∧ a.fragment o' tag.lower = .ok text' ∧
          text'.length ≤ text.length ∧ (text' ≠ [] → text ≠ []) := by
  intro added
  rw [start_fault] at hok hok'
  have heach : ∀ a ∈ attrs, ∃ text text',
      a.fragment o tag.lower = .ok text ∧ a.fragment o' tag.lower = .ok text' ∧
        text'.length ≤ text.length := by
    intro a ha
    obtain ⟨text, htext⟩ := (fragments_of_no_fault hok).2 a ha
    obtain ⟨text', htext'⟩ := (fragments_of_no_fault hok').2 a ha
    exact ⟨text, text', htext, htext', Attribute.length_fragment_le hle htext htext'⟩
  refine ⟨by rw [start_eq [] hok]; rfl, by rw [start_eq [] hok']; rfl, ?_, ?_⟩
  · have htexts : List.Forall₂ (fun t t' : Text => t'.length ≤ t.length)
        (attrs.map (·.fragmentText o tag.lower)) (attrs.map (·.fragmentText o' tag.lower)) := by
      rw [List.forall₂_map_left_iff, List.forall₂_map_right_iff, List.forall₂_same]
      intro a ha
      obtain ⟨text, text', htext, htext', hlength⟩ := heach a ha
      rw [Attribute.fragmentText, Attribute.fragmentText, htext, htext']
      exact hlength
    have hmark : List.Forall₂ (fun t t' : Text => t'.length ≤ t.length) [['>']] [['>']] :=
      .cons (Nat.le_refl _) .nil
    exact length_flatten_le
      (.cons (Nat.le_refl _) (.cons (Nat.le_refl _) (List.rel_append htexts hmark)))
  · intro a ha
    obtain ⟨text, text', htext, htext', hlength⟩ := heach a ha
    refine ⟨text, text', htext, htext', hlength, ?_⟩
    rintro hkept rfl
    exact hkept (List.eq_nil_of_length_eq_zero (Nat.le_zero.1 hlength))

/-- A field loses its type, its value, quotes and the value of a flag. -/
theorem length_start_le_field :
    let few : Options :=
      { removeRedundantAttributes := false, removeAttributeQuotes := false,
        removeEmptyAttributes := false, collapseBooleanAttributes := false }
    let attrs : Attributes :=
      [⟨"TYPE", some " Text"⟩, ⟨"value", some ""⟩, ⟨"checked", some "checked"⟩, ⟨"id", some "a"⟩,
        ⟨"title", some "b c"⟩]
    let text (o : Options) : Text := (({} : Run).start o "INPUT" attrs).1.chunks.flatten
    text few = "<input type=\" Text\" value=\"\" checked=\"checked\" id=\"a\" title=\"b c\">" ∧
      text {} = "<input checked id=a title=\"b c\">" ∧ (text {}).length ≤ (text few).length := by
  intro few attrs text
  have hle : few.CoveredBy {} := ⟨nofun, nofun, nofun, nofun, nofun, nofun⟩
  have hfew : (({} : Run).start few "INPUT" attrs).2 = none := by decide +kernel
  have hall : (({} : Run).start {} "INPUT" attrs).2 = none := by decide +kernel
  obtain ⟨hchunks, hchunks', hlength, -⟩ := length_start_le hle {} {} "INPUT" attrs hfew hall
  refine ⟨by decide +kernel, by decide +kernel, ?_⟩
  show ((({} : Run).start {} "INPUT" attrs).1.chunks.flatten).length
    ≤ ((({} : Run).start few "INPUT" attrs).1.chunks.flatten).length
  rw [hchunks, hchunks']
  exact hlength

end Run

end PagePress

import PagePress.Proofs.Blanks
import PagePress.Proofs.Course

/-!
# Open elements

A run does not keep all open elements, but only those whose blanks mean something, in two lists: one
for the blanks at the ends of a text and one for those inside.  An end tag takes the innermost
element off a list if it has its name, and otherwise leaves the list alone.  This file shows that
for properly nested events this keeps both lists right.

* `openElements past` are all elements that are open after `past`.
* `wellNested` says that every end tag names the innermost open element.
* `openOf_eq_filter` is the invariant: the open elements of a class are those of all open elements
  that belong to the class.
* `kept_eq_openElements` puts it together for every part of a page that is handled without a fault,
  with what it means for texts.
-/

set_option autoImplicit false

namespace PagePress

namespace Transcript

/-- The open elements, innermost first. -/
def openElements : List Event → List Text
  | [] => []
  | .start tag _ :: past => tag.lower :: openElements past
  | .finish _ :: past => (openElements past).tail
  | _ :: past => openElements past

/-- Whether events are properly nested inside of open elements, innermost first: every end tag names
the innermost open element, where `names` says which tags name an element.  A text may stand
anywhere. -/
def wellNested (names : Text → Text → Bool) : List Text → List Event → Bool
  | _, [] => true
  | inner, .start tag _ :: es => wellNested names (tag.lower :: inner) es
  | top :: inner, .finish tag :: es => names tag top && wellNested names inner es
  | [], .finish _ :: _ => false
  | inner, .data _ :: es => wellNested names inner es
  | inner, .comment _ :: es => wellNested names inner es

variable {names : Text → Text → Bool} {keeps : Text → Bool} {past : List Event}

/-- The innermost open element where an end tag comes. -/
theorem openElements_of_finish {tag : Text} {es : List Event}
    (h : wellNested names (openElements past) (.finish tag :: es) = true) :
    ∃ top, openElements past = top :: openElements (.finish tag :: past) ∧
      names tag top = true := by
  cases hopen : openElements past with
  | nil => simp [hopen, wellNested] at h
  | cons top inner =>
    rw [hopen, wellNested, Bool.and_eq_true] at h
    exact ⟨top, by rw [openElements, hopen, List.tail_cons], h.1⟩

/-- Events that are properly nested stay so after the first of them. -/
theorem wellNested_tail {e : Event} {es : List Event}
    (h : wellNested names (openElements past) (e :: es) = true) :
    wellNested names (openElements (e :: past)) es = true := by
  cases e with
  | start tag attrs => exact h
  | finish tag =>
    obtain ⟨top, hopen, -⟩ := openElements_of_finish h
    rw [hopen, wellNested, Bool.and_eq_true] at h
    exact h.2
  | data t => simpa [wellNested, openElements] using h
  | comment t => simpa [wellNested, openElements] using h

/-! ## The open elements of a class -/

/-- What an event that names elements by their very tags does to the open elements of a class. -/
theorem openOf_cons_eq_filter {e : Event} {es : List Event}
    (h : wellNested (· == ·) (openElements past) (e :: es) = true)
    (hpast : openOf keeps past = (openElements past).filter keeps) :
    openOf keeps (e :: past) = (openElements (e :: past)).filter keeps := by
  cases e with
  | start tag attrs =>
    rw [openOf, openElements, List.filter_cons, hpast]
  | finish tag =>
    obtain ⟨top, hopen, hname⟩ := openElements_of_finish h
    obtain rfl : tag = top := by simpa using hname
    rw [openOf, hpast, hopen, List.filter_cons]
    by_cases htag : keeps tag = true
    · -- the element that ends is the innermost one of the class
      rw [if_pos htag, List.head?_cons, if_pos rfl, List.tail_cons]
    · -- it is none of the class, so that no element of the class has its name
      have hne : ((openElements (.finish tag :: past)).filter keeps).head? ≠ some tag := by
        intro hhead
        exact htag (List.mem_filter.1 (List.mem_of_mem_head? hhead)).2
      rw [if_neg htag, if_neg hne]
  | data t => exact hpast
  | comment t => exact hpast

/-- **The open elements of a class are the open elements that belong to it**, after every part of
properly nested events. -/
theorem openOf_eq_filter {before after : List Event}
    (h : wellNested (· == ·) (openElements past) (before ++ after) = true)
    (hpast : openOf keeps past = (openElements past).filter keeps) :
    openOf keeps (before.reverse ++ past)
      = (openElements (before.reverse ++ past)).filter keeps := by
  induction before generalizing past with
  | nil => exact hpast
  | cons e es ih =>
    rw [List.reverse_cons, List.append_assoc]
    exact ih (wellNested_tail h) (openOf_cons_eq_filter h hpast)

/-! ## What the lists mean for texts -/

/-- An element that keeps the blanks at the ends of its text keeps its runs of blanks, too. -/
theorem keepsRuns_of_keepsEnds {tag : Text} (h : keepsEnds tag = true) : keepsRuns tag = true := by
  simp only [keepsEnds, keepsRuns, List.contains_iff_mem, List.mem_cons] at h ⊢
  exact .inr (.inr h)

/-- An open element of a class has a say in how a text is written. -/
theorem governs_of_mem (hopen : openOf keeps past = (openElements past).filter keeps) {tag : Text}
    (hmem : tag ∈ openElements past) (htag : keeps tag = true) : governs keeps past = true := by
  have hin : tag ∈ openOf keeps past := by
    rw [hopen]
    exact List.mem_filter.2 ⟨hmem, htag⟩
  simp [governs, List.ne_nil_of_mem hin]

/-- No element has a say in how a text is written if none of the class is open, nor was started
last. -/
theorem governs_eq_false (hopen : openOf keeps past = (openElements past).filter keeps)
    (hall : ∀ tag ∈ openElements past, keeps tag = false) (hlast : keeps (lastTag past) = false) :
    governs keeps past = false := by
  have hnil : openOf keeps past = [] := by
    rw [hopen, List.filter_eq_nil_iff]
    intro tag htag
    simp [hall tag htag]
  simp [governs, hnil, hlast]

theorem normal_of_governs (o : Options) (hends : governs keepsEnds past = true)
    (hruns : governs keepsRuns past = true) (t : Text) : normal o past t = t := by
  simp [normal, hends, hruns]

theorem normal_of_not_governs {o : Options} (hcollapse : o.collapseWhitespace = true)
    (hends : governs keepsEnds past = false) (hruns : governs keepsRuns past = false) (t : Text) :
    normal o past t = (Text.runs (Text.strip t)).flatMap Text.spaced := by
  rw [← Text.collapse_eq_flatMap_runs]
  simp [normal, hcollapse, hends, hruns]

theorem Knows.data_eq {o : Options} {r : Run} (h : Knows o past r) (t : Text) :
    r.data o (some t) = { r with pending := r.pending ++ normal o past t } := by
  rw [← h.normalize_eq]
  rfl

end Transcript

namespace Page

open Transcript

/-- **The lists of open elements are right.**  After every part of properly nested events that is
handled without a fault, with blanks collapsed and whatever the other options are, one list of a run
holds the open preformatted elements and text fields, outermost first, and the other holds these and
the open scripts and styles.  So a text inside of a preformatted element or a text field is added as
it is.  Where none of the four is open nor was started last, the body of a text is added, with every
run of two or more blanks as one space.  And both lists are empty where all elements are closed. -/
theorem kept_eq_openElements (tools : Tools) (o : Options) (s : Service) (events : List Event)
    (hcollapse : o.collapseWhitespace = true)
    (hnested : wellNested (· == ·) [] events = true) (before after : List Event)
    (hsplit : events = before ++ after)
    (hok : ((opening o).feed tools o s before).fault = none) :
    let r := ((opening o).feed tools o s before).run
    let elements := openElements before.reverse
    let fields : List Text := ["pre", "textarea"]
    let raws : List Text := ["script", "style", "pre", "textarea"]
    r.keepEnds = elements.reverse.filter fields.contains ∧
      r.keepRuns = elements.reverse.filter raws.contains ∧
      (∀ t, (∃ tag ∈ elements, tag ∈ fields) →
        r.data o (some t) = { r with pending := r.pending ++ t }) ∧
      (∀ t lead body trail, Text.Framed t lead body trail → (∀ tag ∈ elements, tag ∉ raws) →
        lastTag before.reverse ∉ raws →
        r.data o (some t) =
          { r with pending := r.pending ++ (Text.runs body).flatMap Text.spaced }) ∧
      (elements = [] → r.keepEnds = [] ∧ r.keepRuns = []) := by
  intro r elements fields raws
  have hknows : Knows o before.reverse r := feed_knows hok
  have hopen : ∀ keeps, openOf keeps before.reverse = elements.filter keeps := by
    intro keeps
    have h : openOf keeps (before.reverse ++ [])
        = (openElements (before.reverse ++ [])).filter keeps :=
      openOf_eq_filter (hsplit ▸ hnested) rfl
    rwa [List.append_nil] at h
  have hends : r.keepEnds = elements.reverse.filter keepsEnds := by
    rw [hknows.ends hcollapse, hopen, List.filter_reverse]
  have hruns : r.keepRuns = elements.reverse.filter keepsRuns := by
    rw [hknows.runs hcollapse, hopen, List.filter_reverse]
  refine ⟨hends, hruns, ?_, ?_, fun hnil => by simp [hends, hruns, hnil]⟩
  · rintro t ⟨tag, hmem, hfield⟩
    have htag : keepsEnds tag = true := List.contains_iff_mem.2 hfield
    rw [hknows.data_eq, normal_of_governs o (governs_of_mem (hopen _) hmem htag)
      (governs_of_mem (hopen _) hmem (keepsRuns_of_keepsEnds htag))]
  · intro t lead body trail hframed hall hlast
    have hplain : ∀ tag, tag ∉ raws → keepsRuns tag = false := by
      intro tag htag
      simpa [raws, keepsRuns] using htag
    -- what keeps no runs of blanks keeps none at its ends
    have hweak : ∀ tag, tag ∉ raws → keepsEnds tag = false := by
      intro tag htag
      cases hkeep : keepsEnds tag with
      | false => rfl
      | true => exact absurd (List.contains_iff_mem.1 (keepsRuns_of_keepsEnds hkeep)) htag
    rw [hknows.data_eq, normal_of_not_governs hcollapse
      (governs_eq_false (hopen _) (fun tag htag => hweak tag (hall tag htag)) (hweak _ hlast))
      (governs_eq_false (hopen _) (fun tag htag => hplain tag (hall tag htag)) (hplain _ hlast)),
      hframed.strip_eq]

/-- The invariant inside of a text field in a preformatted element, with a style before it and an
empty element that is removed. -/
theorem kept_eq_openElements_textarea :
    let o : Options := { removeEmptyElements := true }
    let before : List Event :=
      [.start "PRE" [], .start "style" [], .data (some "a { b : c }"), .finish "style",
        .start "b" [], .finish "b", .start "TextArea" []]
    let after : List Event := [.data (some " x "), .finish "textarea", .finish "pre"]
    let r := ((opening o).feed {} o { replies := [] } before).run
    wellNested (· == ·) [] (before ++ after) = true ∧
      ((opening o).feed {} o { replies := [] } before).fault = none ∧
      r.keepEnds = [("pre" : Text), "textarea"] ∧
      r.data o (some " x ") = { r with pending := r.pending ++ " x " } := by
  intro o before after r
  have hnested : wellNested (· == ·) [] (before ++ after) = true := by decide +kernel
  have hok : ((opening o).feed {} o { replies := [] } before).fault = none := by decide +kernel
  obtain ⟨hends, -, hverbatim, -⟩ := kept_eq_openElements {} o { replies := [] } (before ++ after)
    rfl hnested before after rfl hok
  refine ⟨hnested, hok, hends.trans (by decide +kernel), hverbatim " x " ⟨"pre", ?_, ?_⟩⟩
  · decide +kernel
  · decide +kernel

end Page

end PagePress

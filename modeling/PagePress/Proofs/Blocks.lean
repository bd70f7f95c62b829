import PagePress.Bundle.Page
import PagePress.Proofs.Occurrences

/-!
# The blocks of a bundled page

The bundles of scripts and styles are put into a page by replacing its `</body>` and then its
`</head>`, wherever they stand, in lower case and after the page's own scripts and styles were cut
out.  So a bundle is lost where there is no such tag, it stands twice where there are two, and a
bundle of scripts that holds a `</head>` is torn by the bundle of styles.

* `Bundler.draft` is what a page has come to where it is minified, and `Bundler.bundleText_result`
  says that bundling goes on from there.
* `Bundle.Slot` is a way to put a bundle into a page, in an element and before an end tag;
  `Bundle.scriptSlot` and `Bundle.styleSlot` are the two that there are.
* `Bundle.Slot.block_once_iff` counts a block that is put in alone, and
  `Bundle.scriptBlock_once_iff` one that another block is put in behind.
* `Bundler.blocks_once_iff` says of which pages every block comes out exactly once.

A block is counted by its start tag, which is a tag and so cannot stand across a border.
-/

set_option autoImplicit false

namespace PagePress

/-! ## The page that is minified -/

/-- What a page has come to where it is minified. -/
structure Draft where
  /-- The part of the page in which resources are looked for. -/
  nodes : List Node
  /-- The bundle of its scripts. -/
  scripts : Option Text
  /-- The bundle of its styles. -/
  styles : Option Text

/-- The paths and texts that bundling writes, where it comes to an end. -/
def BundleReport.result (r : BundleReport) : Except Fault (List (Text × Text)) :=
  r.outcome.map fun _ => r.written

namespace Bundler

/-- The directory from which the addresses of a page count. -/
def directory (b : Bundler) (path : Text) : Text := b.disk.absolute (Path.directory path)

/-- What a page comes to before it is minified. -/
def draft (b : Bundler) (path text : Text) : Except Fault Draft := do
  let nodes ← b.kit.document text
  let scripts ←
    (b.scripts (b.directory path) (Node.selectAll (Bundle.hasTag "script") nodes)).1.outcome
  let styles ←
    (b.styles (b.directory path) (Node.selectAll (Bundle.hasTag "style") nodes)
      (Node.selectAll Bundle.isStylesheetLink nodes)).1.outcome
  return { nodes := nodes, scripts := scripts, styles := styles }

/-- A page is bundled by minifying its text with the two bundles in it, and writing what comes
out. -/
theorem bundleText_result (b : Bundler) (path output text : Text) :
    (b.bundleText path output text).1.result = do
      let x ← b.draft path text
      let page ← b.minify (Bundle.edit x.scripts x.styles text)
      let place ← b.disk.writePath output
      return [(place, page)] := by
  rw [bundleText, draft]
  cases b.kit.document text with
  | error fault => rfl
  | ok nodes =>
    rw [ok_bind]
    dsimp only [Bundler.scripts, Bundler.styles, directory]
    generalize Bundle.scripts b.kit b.disk b.service _ _ = found
    generalize Bundle.styles b.kit b.disk _ b.links _ _ = styled
    obtain ⟨⟨lines, outcome⟩, service⟩ := found
    obtain ⟨styleLines, styleOutcome⟩ := styled
    cases outcome with
    | error fault => rfl
    | ok code =>
      cases styleOutcome with
      | error fault => rfl
      | ok style =>
        rw [ok_bind, ok_bind, pure_bind]
        dsimp only [minify]
        generalize (if b.takesPage then
            PagePress.minify { compactors := b.kit.compactors } {} (Bundle.edit code style text)
          else Except.error Fault.pageRefused) = page
        cases page with
        | error fault => rfl
        | ok page => cases b.disk.writePath output <;> rfl

end Bundler

namespace Bundle

open Text

/-! ## Slots -/

/-- How a bundle is put into a page: in an element, before an end tag. -/
structure Slot where
  /-- The start tag of the element. -/
  opening : Text
  /-- The end tag of the element. -/
  ending : Text
  /-- The end tag before which the element is put. -/
  place : Text
  /-- The ends of lines that are put behind that end tag. -/
  behind : Text
  isTag_opening : IsTag opening
  isTag_ending : IsTag ending
  isTag_place : IsTag place
  behind_eq : ∀ c ∈ behind, c = '\n'

namespace Slot

variable (s : Slot)

/-- The element of a bundle. -/
def block (code : Text) : Text := s.opening ++ code ++ s.ending

/-- What the end tag is replaced by. -/
def filling (code : Text) : Text := s.block code ++ (s.place ++ s.behind)

/-- A page with a bundle put in, if there is one. -/
def insert (bundle : Option Text) (t : Text) : Text :=
  match bundle with
  | none => t
  | some code => replace s.place (s.filling code) t

theorem opening_prefix_block (code : Text) : s.opening <+: s.block code :=
  ⟨code ++ s.ending, (List.append_assoc ..).symm⟩

theorem block_ne_nil (code : Text) : s.block code ≠ [] := by
  simp [block, s.isTag_opening.ne_nil]

theorem not_mem_behind : '<' ∉ s.behind := fun h => absurd (s.behind_eq '<' h) (by decide)

theorem isBlock_block (code : Text) : IsBlock (s.block code) where
  head := by simp [block, s.isTag_opening.head]
  last c hc := by
    have hlast : (s.block code).getLast? = some '>' := by simp [block, s.isTag_ending.last]
    exact .inl (Option.some.inj (hc.symm.trans hlast))

theorem isBlock_filling (code : Text) : IsBlock (s.filling code) where
  head := by simp [filling, (s.isBlock_block code).head]
  last c hc := by
    rcases List.eq_nil_or_concat s.behind with hnil | ⟨lines, d, hlines⟩
    · have hlast : (s.filling code).getLast? = some '>' := by
        simp [filling, hnil, s.isTag_place.last]
      exact .inl (Option.some.inj (hc.symm.trans hlast))
    · have hlast : (s.filling code).getLast? = some d := by simp [filling, hlines]
      have hd : d = '\n' := s.behind_eq d (by simp [hlines])
      exact .inr ((Option.some.inj (hc.symm.trans hlast)).trans hd)

/-! ### Counting tags -/

section Tag

variable {p : Text} (hp : IsTag p)
include hp

theorem occurrences_block (hending : ¬ p <:+: s.ending) (code : Text) :
    occurrences p (s.block code) = occurrences p s.opening + occurrences p code := by
  rw [block, (hp.apart_of_head _ s.isTag_ending.head).occurrences_append,
    (hp.apart_of_last s.isTag_opening.isBlock.last code).occurrences_append,
    hp.occurrences_eq_zero hending, Nat.add_zero]

/-- A tag that is no part of a block's own tags stands in the block where it stands in the code. -/
theorem infix_block_iff (hopening : ¬ p <:+: s.opening) (hending : ¬ p <:+: s.ending)
    (code : Text) : p <:+: s.block code ↔ p <:+: code := by
  rw [← occurrences_pos_iff hp.ne_nil, ← occurrences_pos_iff hp.ne_nil,
    s.occurrences_block hp hending, hp.occurrences_eq_zero hopening, Nat.zero_add]

theorem occurrences_filling (hplace : ¬ p <:+: s.place) (code : Text) :
    occurrences p (s.filling code) = occurrences p (s.block code) := by
  have hbehind : ¬ p <:+: s.behind := fun h =>
    s.not_mem_behind (h.subset (List.mem_of_head? hp.head))
  rw [filling, (hp.apart_of_last (s.isBlock_block code).last _).occurrences_append,
    (hp.apart_of_last s.isTag_place.isBlock.last _).occurrences_append,
    hp.occurrences_eq_zero hplace, hp.occurrences_eq_zero hbehind]
  rfl

/-- A bundle adds the tags of its block wherever it is put in. -/
theorem occurrences_insert (hplace : ¬ p <:+: s.place) (code t : Text) :
    occurrences p (s.insert (some code) t) =
      occurrences p t + occurrences s.place t * occurrences p (s.block code) := by
  rw [insert, occurrences_replace hp s.isTag_place (s.isBlock_filling code) hplace,
    s.occurrences_filling hp hplace]

theorem not_infix_insert (hopening : ¬ p <:+: s.opening) (hending : ¬ p <:+: s.ending)
    (hplace : ¬ p <:+: s.place) {code t : Text} (hcode : ¬ p <:+: code) (ht : ¬ p <:+: t) :
    ¬ p <:+: s.insert (some code) t := by
  have hblock := mt (s.infix_block_iff hp hopening hending code).1 hcode
  rw [← occurrences_eq_zero_iff hp.ne_nil, s.occurrences_insert hp hplace,
    hp.occurrences_eq_zero ht, hp.occurrences_eq_zero hblock, Nat.mul_zero]

end Tag

/-! ### One block -/

/-- A block is put in wherever the end tag stands. -/
theorem le_occurrences_insert (code t : Text) :
    occurrences s.place t ≤ occurrences (s.block code) (s.insert (some code) t) := by
  have hblock : 0 < occurrences (s.block code) (s.filling code) :=
    (occurrences_pos_iff (s.block_ne_nil code)).2 (List.prefix_append _ _).isInfix
  exact (Nat.le_mul_of_pos_right _ hblock).trans (le_occurrences_replace s.isTag_place _ _)

/-- All start tags of blocks are those that are put in, if the page has none. -/
theorem occurrences_opening_insert {t : Text} (hplace : ¬ s.opening <:+: s.place)
    (ht : ¬ s.opening <:+: t) (code : Text) :
    occurrences s.opening (s.insert (some code) t) =
      occurrences s.place t * occurrences s.opening (s.block code) := by
  rw [s.occurrences_insert s.isTag_opening hplace, s.isTag_opening.occurrences_eq_zero ht,
    Nat.zero_add]

/-- **A block stands once** exactly if its end tag does. -/
theorem block_once_iff {t : Text} (hplace : ¬ s.opening <:+: s.place) (ht : ¬ s.opening <:+: t)
    (code : Text) :
    occurrences (s.block code) (s.insert (some code) t) = 1 ↔ occurrences s.place t = 1 :=
  occurrences_eq_one_iff (s.opening_prefix_block code) (s.occurrences_opening_insert hplace ht code)
    (s.le_occurrences_insert code t)

end Slot

/-! ## The two slots of a page -/

/-- Scripts are put before the end of the body. -/
def scriptSlot : Slot where
  opening := "<script type=\"text/javascript\" language=\"javascript\">"
  ending := "</script>"
  place := "</body>"
  behind := ['\n']
  isTag_opening := by decide +kernel
  isTag_ending := by decide +kernel
  isTag_place := by decide +kernel
  behind_eq := by simp

/-- Styles are put before the end of the head. -/
def styleSlot : Slot where
  opening := "<style type=\"text/css\">"
  ending := "</style>"
  place := "</head>"
  behind := []
  isTag_opening := by decide +kernel
  isTag_ending := by decide +kernel
  isTag_place := by decide +kernel
  behind_eq := by simp

theorem insertScripts_eq (bundle : Option Text) (t : Text) :
    insertScripts bundle t = scriptSlot.insert bundle t := by
  cases bundle with
  | none => rfl
  | some code =>
    have hend : ("</script></body>\n" : Text) =
        scriptSlot.ending ++ (scriptSlot.place ++ scriptSlot.behind) := by
      decide +kernel
    have hfilling : scriptSlot.opening ++ code ++ "</script></body>\n" = scriptSlot.filling code :=
      (congrArg (scriptSlot.opening ++ code ++ ·) hend).trans (List.append_assoc ..).symm
    exact congrArg (replace scriptSlot.place · t) hfilling

theorem insertStyles_eq (bundle : Option Text) (t : Text) :
    insertStyles bundle t = styleSlot.insert bundle t := by
  cases bundle with
  | none => rfl
  | some code =>
    have hend : ("</style></head>" : Text) =
        styleSlot.ending ++ (styleSlot.place ++ styleSlot.behind) := by
      decide +kernel
    have hfilling : styleSlot.opening ++ code ++ "</style></head>" = styleSlot.filling code :=
      (congrArg (styleSlot.opening ++ code ++ ·) hend).trans (List.append_assoc ..).symm
    exact congrArg (replace styleSlot.place · t) hfilling

theorem edit_eq (scripts styles : Option Text) (text : Text) :
    edit scripts styles text =
      styleSlot.insert styles (scriptSlot.insert scripts (cutResources text)) := by
  rw [edit, insertStyles_eq, insertScripts_eq]

theorem scriptOpening_not_infix_of_mem :
    ∀ q ∈ [scriptSlot.place, styleSlot.opening, styleSlot.ending, styleSlot.place],
      ¬ scriptSlot.opening <:+: q := by
  decide +kernel

theorem styleOpening_not_infix_of_mem :
    ∀ q ∈ [styleSlot.place, scriptSlot.opening, scriptSlot.ending, scriptSlot.place],
      ¬ styleSlot.opening <:+: q := by
  decide +kernel

theorem headEnd_not_infix_of_mem :
    ∀ q ∈ [styleSlot.opening, scriptSlot.opening, scriptSlot.ending, scriptSlot.place],
      ¬ styleSlot.place <:+: q := by
  decide +kernel

section Blocks

variable {code style : Text}

theorem headEnd_infix_scriptBlock_iff :
    styleSlot.place <:+: scriptSlot.block code ↔ styleSlot.place <:+: code :=
  scriptSlot.infix_block_iff styleSlot.isTag_place (headEnd_not_infix_of_mem _ (by simp))
    (headEnd_not_infix_of_mem _ (by simp)) code

theorem scriptOpening_infix_styleBlock_iff :
    scriptSlot.opening <:+: styleSlot.block style ↔ scriptSlot.opening <:+: style :=
  styleSlot.infix_block_iff scriptSlot.isTag_opening (scriptOpening_not_infix_of_mem _ (by simp))
    (scriptOpening_not_infix_of_mem _ (by simp)) style

/-- A block of scripts with an end of a head in it is torn by a block of styles. -/
theorem not_scriptBlock_infix_insert (hscript : ¬ scriptSlot.opening <:+: style)
    (hstyle : ¬ styleSlot.opening <:+: code) (hhead : styleSlot.place <:+: code) (t : Text) :
    ¬ scriptSlot.block code <:+: styleSlot.insert (some style) t := by
  have hopening : ¬ scriptSlot.opening <:+: styleSlot.filling style := by
    rw [← occurrences_eq_zero_iff scriptSlot.isTag_opening.ne_nil,
      styleSlot.occurrences_filling scriptSlot.isTag_opening
        (scriptOpening_not_infix_of_mem _ (by simp)),
      occurrences_eq_zero_iff scriptSlot.isTag_opening.ne_nil]
    exact mt scriptOpening_infix_styleBlock_iff.1 hscript
  have hblock : ¬ styleSlot.opening <:+: scriptSlot.block code :=
    mt (scriptSlot.infix_block_iff styleSlot.isTag_opening
      (styleOpening_not_infix_of_mem _ (by simp)) (styleOpening_not_infix_of_mem _ (by simp))
      code).1 hstyle
  exact not_infix_replace styleSlot.isTag_place (styleSlot.isBlock_filling style)
    ((styleSlot.opening_prefix_block style).trans (List.prefix_append _ _))
    (headEnd_not_infix_of_mem _ (by simp)) scriptSlot.isTag_opening hopening
    (scriptSlot.opening_prefix_block code) (headEnd_infix_scriptBlock_iff.2 hhead) hblock t

/-- **A block of scripts stands once** exactly if the page has one end of its body, and no block of
styles is put into the scripts. -/
theorem scriptBlock_once_iff {styles : Option Text} {t : Text}
    (ht : ¬ scriptSlot.opening <:+: t)
    (hstyles : ∀ style ∈ styles,
      ¬ scriptSlot.opening <:+: style ∧ ¬ styleSlot.opening <:+: code) :
    occurrences (scriptSlot.block code) (styleSlot.insert styles (scriptSlot.insert (some code) t))
        = 1 ↔
      occurrences scriptSlot.place t = 1 ∧ (styles.isSome → ¬ styleSlot.place <:+: code) := by
  have hplace : ¬ scriptSlot.opening <:+: scriptSlot.place :=
    scriptOpening_not_infix_of_mem _ (by simp)
  cases styles with
  | none => simpa [Slot.insert] using scriptSlot.block_once_iff hplace ht code
  | some style =>
    obtain ⟨hscript, hstyle⟩ := hstyles style rfl
    by_cases hhead : styleSlot.place <:+: code
    · have hnone := not_scriptBlock_infix_insert hscript hstyle hhead
        (scriptSlot.insert (some code) t)
      rw [(occurrences_eq_zero_iff (scriptSlot.block_ne_nil code)).2 hnone]
      simp [hhead]
    · -- the block of styles brings no start tag of a block of scripts, and tears none
      have hcount : occurrences scriptSlot.opening
          (styleSlot.insert (some style) (scriptSlot.insert (some code) t)) =
            occurrences scriptSlot.place t *
              occurrences scriptSlot.opening (scriptSlot.block code) := by
        rw [styleSlot.occurrences_insert scriptSlot.isTag_opening
            (scriptOpening_not_infix_of_mem _ (by simp)),
          scriptSlot.isTag_opening.occurrences_eq_zero
            (mt scriptOpening_infix_styleBlock_iff.1 hscript),
          Nat.mul_zero, Nat.add_zero, scriptSlot.occurrences_opening_insert hplace ht]
      have hkept : occurrences (scriptSlot.block code) (scriptSlot.insert (some code) t) ≤
          occurrences (scriptSlot.block code)
            (styleSlot.insert (some style) (scriptSlot.insert (some code) t)) :=
        occurrences_le_replace styleSlot.isTag_place (scriptSlot.isBlock_block code)
          (mt headEnd_infix_scriptBlock_iff.1 hhead) _
      rw [occurrences_eq_one_iff (scriptSlot.opening_prefix_block code) hcount
        ((scriptSlot.le_occurrences_insert code t).trans hkept)]
      simp [hhead]

end Blocks

end Bundle

/-! ## All blocks -/

open Text PagePress.Bundle

namespace Draft

/-- The start tags of the two blocks stand nowhere but where the blocks are put in: not in what is
left of the page, and not in the other bundle. -/
structure IsPlain (x : Draft) (text : Text) : Prop where
  scripts : x.scripts.isSome → ¬ scriptSlot.opening <:+: cutResources text
  styles : x.styles.isSome → ¬ styleSlot.opening <:+: cutResources text
  bundles : ∀ code ∈ x.scripts, ∀ style ∈ x.styles,
    ¬ scriptSlot.opening <:+: style ∧ ¬ styleSlot.opening <:+: code

/-- The number of places before which the styles are put. -/
def heads (x : Draft) (text : Text) : Nat :=
  occurrences styleSlot.place (cutResources text) +
    occurrences scriptSlot.place (cutResources text) *
      (x.scripts.map (occurrences styleSlot.place)).getD 0

theorem occurrences_headEnd (x : Draft) (text : Text) :
    occurrences styleSlot.place (scriptSlot.insert x.scripts (cutResources text)) =
      x.heads text := by
  rw [heads]
  cases x.scripts with
  | none => rfl
  | some code =>
    rw [scriptSlot.occurrences_insert styleSlot.isTag_place
        (headEnd_not_infix_of_mem _ (by simp)),
      scriptSlot.occurrences_block styleSlot.isTag_place (headEnd_not_infix_of_mem _ (by simp)),
      styleSlot.isTag_place.occurrences_eq_zero
        (headEnd_not_infix_of_mem scriptSlot.opening (by simp)),
      Nat.zero_add]
    rfl

theorem IsPlain.styleOpening_not_infix_insert {x : Draft} {text style : Text}
    (h : x.IsPlain text) (hstyle : style ∈ x.styles) :
    ¬ styleSlot.opening <:+: scriptSlot.insert x.scripts (cutResources text) := by
  have ht := h.styles (Option.isSome_of_mem hstyle)
  cases hscripts : x.scripts with
  | none => exact ht
  | some code =>
    exact scriptSlot.not_infix_insert styleSlot.isTag_opening
      (styleOpening_not_infix_of_mem _ (by simp)) (styleOpening_not_infix_of_mem _ (by simp))
      (styleOpening_not_infix_of_mem _ (by simp)) (h.bundles code hscripts style hstyle).2 ht

end Draft

namespace Bundler

/-- **The blocks of a bundled page stand once**, the one of the scripts exactly if what is left of
the page has one `</body>` in lower case and the styles do not tear it, and the one of the styles
exactly if what is left and the scripts in it have one `</head>` in lower case.  The page that the
blocks are counted in is the one that is minified and written. -/
theorem blocks_once_iff (b : Bundler) {path text : Text} {x : Draft}
    (hx : b.draft path text = .ok x) (hplain : x.IsPlain text) (output : Text) :
    ((b.bundleText path output text).1.result = do
      let page ← b.minify (edit x.scripts x.styles text)
      let place ← b.disk.writePath output
      return [(place, page)]) ∧
    (∀ code ∈ x.scripts,
      occurrences (scriptSlot.block code) (edit x.scripts x.styles text) = 1 ↔
        occurrences scriptSlot.place (cutResources text) = 1 ∧
          (x.styles.isSome → ¬ styleSlot.place <:+: code)) ∧
    (∀ style ∈ x.styles,
      occurrences (styleSlot.block style) (edit x.scripts x.styles text) = 1 ↔
        x.heads text = 1) := by
  refine ⟨?_, ?_, ?_⟩
  · rw [bundleText_result, hx, ok_bind]
  · intro code hcode
    have hstyles := hplain.bundles code hcode
    have ht := hplain.scripts (Option.isSome_of_mem hcode)
    rw [edit_eq, Option.mem_def.1 hcode]
    exact scriptBlock_once_iff ht hstyles
  · intro style hstyle
    have ht := hplain.styleOpening_not_infix_insert hstyle
    rw [edit_eq, ← x.occurrences_headEnd, Option.mem_def.1 hstyle]
    exact styleSlot.block_once_iff (styleOpening_not_infix_of_mem _ (by simp)) ht style

/-- The scripts and the styles of a page with one head and one body. -/
theorem blocks_once_iff_page :
    let b : Bundler := { service := some { replies := [("var a;" : Text)] }, takesPage := true }
    let text : Text := "<html><head><style>b { c: d }</style></head><body><p>e</p>" ++
      "<script>var a;</script></body></html>"
    ∃ x, b.draft "/site/page.html" text = .ok x ∧ x.IsPlain text ∧
      x.scripts = some ("var a;" : Text) ∧ x.styles = some ("b{c:d}" : Text) ∧
      occurrences (scriptSlot.block "var a;") (edit x.scripts x.styles text) = 1 ∧
      occurrences (styleSlot.block "b{c:d}") (edit x.scripts x.styles text) = 1 := by
  intro b text
  have hdraft : (b.draft "/site/page.html" text).map (fun x => (x.scripts, x.styles)) =
      .ok (some ("var a;" : Text), some ("b{c:d}" : Text)) := by
    decide +kernel
  obtain ⟨x, hx, hbundles⟩ := exists_of_map_eq_ok hdraft
  obtain ⟨hscripts, hstyles⟩ := Prod.mk.inj hbundles
  have hleft : ¬ scriptSlot.opening <:+: cutResources text ∧
      ¬ styleSlot.opening <:+: cutResources text ∧
      occurrences scriptSlot.place (cutResources text) = 1 ∧
      occurrences styleSlot.place (cutResources text) = 1 := by
    decide +kernel
  have hapart : ¬ scriptSlot.opening <:+: ("b{c:d}" : Text) ∧
      ¬ styleSlot.opening <:+: ("var a;" : Text) ∧ ¬ styleSlot.place <:+: ("var a;" : Text) := by
    decide +kernel
  obtain ⟨hscript, hstyle, hbody, hhead⟩ := hleft
  have hplain : x.IsPlain text := by
    refine ⟨fun _ => hscript, fun _ => hstyle, ?_⟩
    rw [hscripts, hstyles]
    rintro _ ⟨⟩ _ ⟨⟩
    exact ⟨hapart.1, hapart.2.1⟩
  obtain ⟨-, hscriptBlock, hstyleBlock⟩ := blocks_once_iff b hx hplain "/site/out.html"
  refine ⟨x, hx, hplain, hscripts, hstyles,
    (hscriptBlock _ hscripts).2 ⟨hbody, fun _ => hapart.2.2⟩, (hstyleBlock _ hstyles).2 ?_⟩
  rw [Draft.heads, hhead, hbody, hscripts, Option.map_some, Option.getD_some,
    styleSlot.isTag_place.occurrences_eq_zero hapart.2.2]

/-- A page whose head is closed in capitals loses its styles. -/
theorem styleBlock_lost :
    let b : Bundler := { takesPage := true }
    let text : Text := "<html><head><style>b { c: d }</style></HEAD><body><p>x</p></body></html>"
    ∃ x, b.draft "/site/page.html" text = .ok x ∧ x.styles = some ("b{c:d}" : Text) ∧
      occurrences (styleSlot.block "b{c:d}") (edit x.scripts x.styles text) = 0 := by
  intro b text
  have hdraft : (b.draft "/site/page.html" text).map (fun x => (x.scripts, x.styles)) =
      .ok (none, some ("b{c:d}" : Text)) := by
    decide +kernel
  obtain ⟨x, hx, hbundles⟩ := exists_of_map_eq_ok hdraft
  obtain ⟨hscripts, hstyles⟩ := Prod.mk.inj hbundles
  refine ⟨x, hx, hstyles, ?_⟩
  rw [hscripts, hstyles]
  decide +kernel

end Bundler

end PagePress

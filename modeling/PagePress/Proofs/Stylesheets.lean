import Mathlib.Data.List.Basic
import PagePress.Bundle.Page
import PagePress.Proofs.Blanks

/-!
# The stylesheets of a bundle

The links of a page are gone through one by one, with a list of the paths that are bundled so far;
the links of all pages before stand in front of them.  This file says without that list what comes
out: each file that a link names is bundled once, at its first link.

* `Bundle.linkedPaths` is the list of these files, `Bundle.stylesheet` what each of them adds, and
  `Bundle.joinedStyles` what they and the styles of the page are together.
* `Bundle.linkText_outcome` is one link, and `Bundle.linksText_outcome` follows all of them.  What
  carries the induction is that the paths bundled before are left out of the paths to come.  A link
  needs an address that is not empty; `Bundle.linksText_endless` says what becomes of one that is.
* `Bundler.stylesOfAll_getElem?` says which links a page finds in front of its own.
* `Bundler.stylesOfAll_outcome` concludes, for any page of any row of pages.

They say of outcomes what they are, so they also say which fault comes out where a file cannot be
read.
-/

set_option autoImplicit false

namespace PagePress

namespace Bundle

/-! ## Files -/

/-- The path of the file that a link adds to a bundle: its address is local, and there is something
at its path. -/
def localPath? (d : Disk) (dir : Text) (link : Node) : Option Text := do
  let href ← link.attribute? "href"
  if !isRemote href && d.isThere (d.resolve dir href) then some (d.resolve dir href) else none

/-- The paths of the files that links add to a bundle, each once, in the order of their first
links. -/
def linkedPaths (d : Disk) (dir : Text) (links : List Node) : List Text :=
  (links.filterMap (localPath? d dir)).eraseDups

/-- The stylesheet of a path, with the files embedded that it refers to. -/
def stylesheet (d : Disk) (path : Text) : Except Fault Text := do
  let content ← d.readText path
  embed d (d.absolute (Path.directory path)) content

/-- **One link** adds the stylesheet of its path, if it has one that is not bundled already. -/
theorem linkText_outcome {d : Disk} {dir : Text} {link : Node} {href : Text}
    (hhref : link.attribute? "href" = some href) (hne : href ≠ []) (bundled : List Text) :
    (linkText d dir bundled link).outcome =
      match localPath? d dir link with
      | none => pure ([], bundled)
      | some path =>
        if bundled.contains path then pure ([], bundled)
        else do
          let text ← stylesheet d path
          return (text, bundled ++ [path]) := by
  obtain ⟨c, cs, rfl⟩ := List.exists_cons_of_ne_nil hne
  rw [linkText, localPath?, hhref]
  dsimp only [Option.bind_eq_bind, Option.bind_some]
  cases isRemote (c :: cs) with
  | true => rfl
  | false =>
    cases d.isThere (d.resolve dir (c :: cs)) with
    | false => rfl
    | true =>
      simp only [Bool.not_true, Bool.not_false, Bool.and_self, Bool.false_eq_true, if_false,
        if_true]
      cases bundled.contains (d.resolve dir (c :: cs)) with
      | true => rfl
      | false =>
        simp only [Bool.false_eq_true, if_false, stylesheet, Journal.outcome_bind,
          Journal.outcome_tell, Journal.outcome_silently, Journal.outcome_pure, pure_bind,
          bind_assoc]

theorem linksText_cons_outcome (d : Disk) (dir : Text) (bundled : List Text) (link : Node)
    (rest : List Node) :
    (linksText d dir bundled (link :: rest)).outcome = do
      let added ← (linkText d dir bundled link).outcome
      let more ← (linksText d dir added.2 rest).outcome
      return added.1 ++ more := by
  rw [linksText, Journal.outcome_bind]
  exact congrArg _ (funext fun added => Journal.outcome_bind _ _)

/-- **A link with an empty address is never passed**, whatever comes behind it. -/
theorem linksText_endless {d : Disk} {dir : Text} {link : Node}
    (hlink : link.attribute? "href" = some []) {before : List Node} (after : List Node)
    (bundled : List Text) {t : Text} (hbefore : (linksText d dir bundled before).outcome = .ok t) :
    (linksText d dir bundled (before ++ link :: after)).outcome = .error .endless := by
  induction before generalizing bundled t with
  | nil =>
    rw [List.nil_append, linksText_cons_outcome, linkText, hlink]
    rfl
  | cons first rest ih =>
    rw [linksText_cons_outcome] at hbefore
    obtain ⟨added, hfirst, hadded⟩ := exists_of_bind_eq_ok hbefore
    obtain ⟨more, hrest, -⟩ := exists_of_bind_eq_ok hadded
    rw [List.cons_append, linksText_cons_outcome, hfirst, ok_bind, ih added.2 hrest]
    rfl

/-- **Links one after the other** add the stylesheets of their paths, each once.  The paths that are
bundled already are passed over. -/
theorem linksText_outcome {d : Disk} {dir : Text} {links : List Node}
    (hhref : ∀ link ∈ links, ∃ href, link.attribute? "href" = some href ∧ href ≠ [])
    (bundled : List Text) :
    (linksText d dir bundled links).outcome = do
      let texts ← ((links.filterMap (localPath? d dir)).filter
        (!bundled.contains ·)).eraseDups.mapM (stylesheet d)
      return texts.flatten := by
  induction links generalizing bundled with
  | nil => rfl
  | cons link rest ih =>
    obtain ⟨⟨href, hlink, hne⟩, hrest⟩ := List.forall_mem_cons.1 hhref
    rw [linksText_cons_outcome, linkText_outcome hlink hne, List.filterMap_cons]
    cases localPath? d dir link with
    | none => simp only [pure_bind, ih hrest, bind_assoc, List.nil_append]
    | some path =>
      dsimp only
      rw [List.filter_cons]
      cases hpath : bundled.contains path with
      | true =>
        simp only [if_true, pure_bind, ih hrest, bind_assoc, List.nil_append, Bool.not_true,
          Bool.false_eq_true, if_false]
      | false =>
        -- `eraseDups` takes the path out of the rest, and so does the list of bundled paths
        have hfilter : ∀ paths : List Text, (paths.filter (!bundled.contains ·)).filter (!· == path)
            = paths.filter (!(bundled ++ [path]).contains ·) := by
          intro paths
          rw [List.filter_filter]
          refine List.filter_congr fun x _ => ?_
          simp [Bool.and_comm, Bool.beq_eq_decide_eq]
        simp only [Bool.false_eq_true, if_false, Bool.not_false, if_true, List.eraseDups_cons,
          hfilter, List.mapM_cons, bind_assoc, pure_bind, ih hrest, List.flatten_cons]

theorem isRemote_iff {address : Text} :
    isRemote address = true ↔ ∃ scheme ∈ remoteSchemes, scheme <+: address := by
  simp only [isRemote, List.any_eq_true, Text.isSome_after?_iff]

theorem mem_linkedPaths {d : Disk} {dir path : Text} {links : List Node} :
    path ∈ linkedPaths d dir links ↔
      ∃ link ∈ links, ∃ href, link.attribute? "href" = some href ∧
        (∀ scheme ∈ remoteSchemes, ¬ scheme <+: href) ∧ d.isThere (d.resolve dir href) = true ∧
        d.resolve dir href = path := by
  rw [linkedPaths, List.mem_eraseDups, List.mem_filterMap]
  refine exists_congr fun link => and_congr_right fun _ => ?_
  simp only [localPath?, Option.bind_eq_bind, Option.bind_eq_some_iff,
    Option.ite_none_right_eq_some, Bool.and_eq_true, Bool.not_eq_true', ← Bool.not_eq_true,
    isRemote_iff, not_exists, not_and, Option.some.injEq, and_assoc]

theorem nodup_eraseDups (paths : List Text) : paths.eraseDups.Nodup := by
  induction hn : paths.length using Nat.strongRecOn generalizing paths with
  | ind n ih =>
    cases paths with
    | nil => exact List.nodup_nil
    | cons path rest =>
      rw [List.eraseDups_cons, List.nodup_cons, List.mem_eraseDups]
      subst hn
      exact ⟨by simp, ih _ (Nat.lt_succ_of_le (List.length_filter_le _ _)) _ rfl⟩

theorem linksText_nil_outcome {d : Disk} {dir : Text} {links : List Node}
    (hhref : ∀ link ∈ links, ∃ href, link.attribute? "href" = some href ∧ href ≠ []) :
    (linksText d dir [] links).outcome = do
      let texts ← (linkedPaths d dir links).mapM (stylesheet d)
      return texts.flatten := by
  have hall : ∀ paths : List Text, paths.filter (!([] : List Text).contains ·) = paths :=
    fun paths => List.filter_eq_self.2 fun _ _ => rfl
  rw [linksText_outcome hhref, hall, linkedPaths]

theorem stylesText_outcome (k : Toolkit) (d : Disk) (dir : Text) (styles : List Node) :
    (stylesText k d dir styles).outcome = do
      let texts ← styles.mapM fun style => embed d dir (k.inlineText style)
      return texts.flatten := by
  induction styles with
  | nil => rfl
  | cons style rest ih =>
    simp only [stylesText, Journal.outcome_bind, Journal.outcome_tell, Journal.outcome_silently,
      Journal.outcome_pure, pure_bind, ih, bind_assoc, List.mapM_cons, List.flatten_cons]

/-! ## A whole page -/

/-- The styles of a page as they are joined: each file that a link names once, then the styles of
the page. -/
def joinedStyles (k : Toolkit) (d : Disk) (dir : Text) (links styles : List Node) :
    Except Fault Text := do
  let linked ← (linkedPaths d dir links).mapM (stylesheet d)
  let inPage ← styles.mapM fun style => embed d dir (k.inlineText style)
  return linked.flatten ++ inPage.flatten

/-- The bundle of joined styles: none if there is nothing but blanks and ends of lines. -/
def compacted (k : Toolkit) (t : Text) : Except Fault (Option Text) :=
  if oneLine t = [] then return none else some <$> k.compactors.style (oneLine t)

theorem outcome_compacted (k : Toolkit) (t : Text) :
    (if (oneLine t).isEmpty then pure none else do
      let text ← Journal.silently (k.compactors.style (oneLine t))
      return some text : Journal (Option Text)).outcome = compacted k t := by
  rw [compacted]
  cases oneLine t with
  | nil => rfl
  | cons c cs => cases k.compactors.style (c :: cs) <;> rfl

/-- **The styles of a page** are those of its links and of itself, compacted.  The links of the
pages before count only if the page has links. -/
theorem styles_outcome {k : Toolkit} {d : Disk} {dir : Text} {earlier links styles : List Node}
    (hhref : ∀ link ∈ (if links = [] then [] else earlier ++ links),
      ∃ href, link.attribute? "href" = some href ∧ href ≠ []) :
    (Bundle.styles k d dir earlier links styles).outcome =
      joinedStyles k d dir (if links = [] then [] else earlier ++ links) styles >>=
        compacted k := by
  have hlinks : (if links.isEmpty then [] else earlier ++ links)
      = if links = [] then [] else earlier ++ links := by cases links <;> rfl
  simp only [Bundle.styles, joinedStyles, hlinks, Journal.outcome_bind, linksText_nil_outcome hhref,
    stylesText_outcome, bind_assoc, pure_bind, outcome_compacted]

/-- The line that joined styles are compacted as: no end of a line is left in them, and no blank at
their ends. -/
theorem exists_framed_oneLine (t : Text) : ∃ lead trail,
    Text.Framed (t.filter fun c => c != '\r' && c != '\n') lead (oneLine t) trail :=
  Text.exists_framed _

end Bundle

/-! ## Page after page -/

namespace Bundler

/-- A page whose styles are asked for. -/
structure StyledPage where
  dir : Text
  styles : List Node
  links : List Node

/-- The bundles of styles of pages, one after the other. -/
def stylesOfAll : Bundler → List StyledPage → List (Journal (Option Text))
  | _, [] => []
  | b, p :: ps =>
    let (journal, b) := b.styles p.dir p.styles p.links
    journal :: b.stylesOfAll ps

/-- A page is bundled with the links of the pages before it, whatever became of them. -/
theorem stylesOfAll_getElem? (b : Bundler) (pages : List StyledPage) (k : Nat) :
    (b.stylesOfAll pages)[k]? = pages[k]?.map fun p =>
      Bundle.styles b.kit b.disk p.dir (b.links ++ (pages.take k).flatMap (·.links)) p.links
        p.styles := by
  induction pages generalizing b k with
  | nil => simp [stylesOfAll]
  | cons p ps ih =>
    rw [stylesOfAll]
    cases k with
    | zero => simp [Bundler.styles]
    | succ k =>
      simp only [List.getElem?_cons_succ, ih, List.take_succ_cons, List.flatMap_cons,
        Bundler.styles, List.append_assoc]

/-- **What is bundled for a page.**  In a row of pages, a page that has links is bundled with all
links up to its own.  Its styles are joined from the files that these links name, each file once
and at its first link, and from its own styles; a link names a file if its address is local and
there is something at its path.  Of the joined styles the carriage returns and line feeds are taken
out, and the blanks at the ends.  There is no bundle if nothing is left, and else the bundle is the
compact form of what is left. -/
theorem stylesOfAll_outcome (b : Bundler) (pages : List StyledPage) (k : Nat) (p : StyledPage)
    (hp : pages[k]? = some p) :
    let links := if p.links = [] then [] else b.links ++ (pages.take (k + 1)).flatMap (·.links)
    (∀ link ∈ links, ∃ href, link.attribute? "href" = some href ∧ href ≠ []) →
      (∃ journal, (b.stylesOfAll pages)[k]? = some journal ∧
        (∀ fault, Bundle.joinedStyles b.kit b.disk p.dir links p.styles = .error fault →
          journal.outcome = .error fault) ∧
        ∀ text, Bundle.joinedStyles b.kit b.disk p.dir links p.styles = .ok text →
          ∃ lead line trail,
            Text.Framed (text.filter fun c => c != '\r' && c != '\n') lead line trail ∧
            journal.outcome =
              if line = [] then .ok none else some <$> b.kit.compactors.style line) ∧
      (Bundle.linkedPaths b.disk p.dir links).Nodup ∧
      ∀ path, path ∈ Bundle.linkedPaths b.disk p.dir links ↔
        ∃ link ∈ links, ∃ href, link.attribute? "href" = some href ∧
          (∀ scheme ∈ remoteSchemes, ¬ scheme <+: href) ∧
          b.disk.isThere (b.disk.resolve p.dir href) = true ∧ b.disk.resolve p.dir href = path := by
  intro links hhref
  have hlinks : links = if p.links = [] then []
      else (b.links ++ (pages.take k).flatMap (·.links)) ++ p.links := by
    simp only [links, List.take_add_one, hp, Option.toList_some, List.flatMap_append,
      List.flatMap_singleton, List.append_assoc]
  have houtcome : (Bundle.styles b.kit b.disk p.dir (b.links ++ (pages.take k).flatMap (·.links))
      p.links p.styles).outcome
        = Bundle.joinedStyles b.kit b.disk p.dir links p.styles >>= Bundle.compacted b.kit := by
    rw [hlinks] at hhref ⊢
    exact Bundle.styles_outcome hhref
  refine ⟨⟨_, by rw [stylesOfAll_getElem?, hp, Option.map_some], ?_, ?_⟩,
    Bundle.nodup_eraseDups _, fun path => Bundle.mem_linkedPaths⟩
  · intro fault hfault
    rw [houtcome, hfault]
    rfl
  · intro text htext
    obtain ⟨lead, trail, hframed⟩ := Bundle.exists_framed_oneLine text
    refine ⟨lead, Bundle.oneLine text, trail, hframed, ?_⟩
    rw [houtcome, htext]
    rfl

/-- A first page links to a file of blanks and line feeds, and has no bundle.  A second page is
bundled with the link of the first.  Of its own links one names the same file in another spelling,
one is remote and one names no file; the line feed inside of a file is left out. -/
theorem stylesOfAll_outcome_second :
    let link (href : Text) : Node :=
      .element "link" [⟨"rel", some "stylesheet"⟩, ⟨"href", some href⟩] []
    let b : Bundler :=
      { disk :=
          { files := [("/site/e.css", Utf8.encode " \n\t\r\n "),
              ("/site/a.css", Utf8.encode "a\nb{c:d}")] } }
    let first : StyledPage := ⟨"/site", [], [link "e.css"]⟩
    let second : StyledPage :=
      { dir := "/site"
        styles := [.element "style" [] [.text "g { h : i }"]]
        links := [link "./e.css", link "http://x/y.css", link "a.css", link "none.css"] }
    Bundle.linkedPaths b.disk "/site" (link "e.css" :: second.links)
        = [("/site/e.css" : Text), "/site/a.css"] ∧
      (∃ journal, (b.stylesOfAll [first, second])[0]? = some journal ∧
        journal.outcome = .ok none) ∧
      ∃ journal, (b.stylesOfAll [first, second])[1]? = some journal ∧
        journal.outcome = .ok (some ("ab{c:d}g{h:i}" : Text)) := by
  intro link b first second
  have hhref : ∀ node ∈ link "e.css" :: second.links,
      ∃ href, node.attribute? "href" = some href ∧ href ≠ [] := by
    simp only [second, List.forall_mem_cons]
    refine ⟨⟨_, rfl, ?_⟩, ⟨_, rfl, ?_⟩, ⟨_, rfl, ?_⟩, ⟨_, rfl, ?_⟩, ⟨_, rfl, ?_⟩, by simp⟩ <;>
      decide
  refine ⟨by decide +kernel, ?_, ?_⟩
  · have hfirst : ∀ node ∈ [link "e.css"], ∃ href, node.attribute? "href" = some href ∧ href ≠ [] :=
      fun node hnode => hhref node (List.mem_singleton.1 hnode ▸ List.mem_cons_self)
    obtain ⟨journal, hjournal, -, houtcome⟩ :=
      (stylesOfAll_outcome b [first, second] 0 first rfl hfirst).1
    obtain ⟨lead, line, trail, hframed, hline⟩ := houtcome " \n\t\n " (by decide +kernel)
    have hblank : line = [] := hframed.strip_eq.symm.trans (by decide +kernel)
    exact ⟨journal, hjournal, hline.trans (if_pos hblank)⟩
  · obtain ⟨journal, hjournal, -, houtcome⟩ :=
      (stylesOfAll_outcome b [first, second] 1 second rfl hhref).1
    obtain ⟨lead, line, trail, hframed, hline⟩ :=
      houtcome " \n\t\n a\nb{c:d}g { h : i }" (by decide +kernel)
    have hjoined : line = "ab{c:d}g { h : i }" := hframed.strip_eq.symm.trans (by decide +kernel)
    rw [hjoined] at hline
    exact ⟨journal, hjournal, hline.trans (by decide +kernel)⟩

end Bundler

end PagePress

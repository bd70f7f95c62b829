import PagePress.Proofs.Embedding
import PagePress.Proofs.Seams

/-!
# Where addresses lead

A local address is put below a directory, the root of the site if it starts with a slash, and the
path is brought into normal form.  An address without two dots should lead to that directory or to
something below it.  It does, unless it starts with two slashes: only one of them is taken off, and
what is left starts at the root of the disk.

* `Path.Within base p` says that `p` is `base` or below it, by putting names behind `base`.
* `Path.written` is the normal path of some slashes and names.  `Path.rootSlashes_written` and
  `Path.components_written` read them back, so a normal path is determined by them.
* `Path.components_eq` says what the components of a path without two dots are, and
  `Path.parts_join` that a path below a directory adds its own to those of the directory.
* `Disk.resolve_within_iff` concludes.
-/

set_option autoImplicit false

namespace PagePress

namespace Path

/-! ## Names -/

/-- A component of a path that names something. -/
structure IsName (part : Text) : Prop where
  ne_nil : part ≠ []
  ne_dot : part ≠ "."
  ne_dots : part ≠ ".."
  noSlash : '/' ∉ part

/-- The path `p` is `base` or below it: names are put behind `base`, one after the other. -/
def Within (base p : Text) : Prop :=
  ∃ names : List Text, (∀ name ∈ names, IsName name) ∧ p = names.foldl join base

/-- The parts of a path between slashes that are not empty. -/
def parts (p : Text) : List Text := Text.pieces (· == '/') p

theorem mem_parts {p part : Text} (h : part ∈ parts p) : part ≠ [] ∧ '/' ∉ part := by
  obtain ⟨hne, hslash⟩ := Text.mem_pieces h
  exact ⟨hne, fun hmem => absurd (hslash '/' hmem) (by simp)⟩

/-! ## One component -/

section Component

variable {rooted : Bool} {names : List Text} {part : Text}

theorem addComponent_nil : addComponent rooted names [] = names := rfl

theorem addComponent_dot : addComponent rooted names "." = names := rfl

/-- On a path of names from the root, two dots cancel the last name, if there is one. -/
theorem addComponent_dots (hnames : ∀ name ∈ names, IsName name) :
    addComponent true names ".." = names.tail := by
  cases names with
  | nil => rfl
  | cons last rest =>
    have hlast : ¬ (last == "..") = true := by
      simpa using (hnames last List.mem_cons_self).ne_dots
    exact if_neg hlast

theorem addComponent_of_isName (hpart : IsName part) :
    addComponent rooted names part = part :: names := by
  have hempty : ¬ (part.isEmpty || part == ".") = true := by
    simpa using ⟨hpart.ne_nil, hpart.ne_dot⟩
  have hdots : ¬ (part == "..") = true := by simpa using hpart.ne_dots
  unfold addComponent
  rw [if_neg hempty, if_neg hdots]

/-- A component leaves names on a path of names from the root. -/
theorem isName_addComponent (hnames : ∀ name ∈ names, IsName name) (hslash : '/' ∉ part) :
    ∀ name ∈ addComponent true names part, IsName name := by
  by_cases hnil : part = []
  · rwa [hnil, addComponent_nil]
  by_cases hdot : part = "."
  · rwa [hdot, addComponent_dot]
  by_cases hdots : part = ".."
  · rw [hdots, addComponent_dots hnames]
    exact fun name h => hnames name (List.mem_of_mem_tail h)
  · have hpart : IsName part := ⟨hnil, hdot, hdots, hslash⟩
    rw [addComponent_of_isName hpart]
    exact List.forall_mem_cons.2 ⟨hpart, hnames⟩

end Component

/-! ## All components -/

/-- Empty components are passed over. -/
theorem components_eq_foldl (p : Text) :
    components p = ((parts p).foldl (addComponent (isAbsolute p)) []).reverse := by
  have hskip : ∀ (names : List Text) (part : Text),
      (if (!part.isEmpty) = true then addComponent (isAbsolute p) names part else names)
        = addComponent (isAbsolute p) names part := by
    intro names part
    cases part <;> rfl
  rw [components, parts, Text.pieces, List.foldl_filter, Text.splitOn_eq]
  simp only [hskip]

theorem isName_foldl {found names : List Text} (hfound : ∀ part ∈ found, '/' ∉ part)
    (hnames : ∀ name ∈ names, IsName name) :
    ∀ name ∈ found.foldl (addComponent true) names, IsName name := by
  induction found generalizing names with
  | nil => exact hnames
  | cons part found ih =>
    obtain ⟨hpart, hrest⟩ := List.forall_mem_cons.1 hfound
    exact ih hrest (isName_addComponent hnames hpart)

/-- The components of a path from the root are names. -/
theorem isName_of_mem_components {p name : Text} (hp : isAbsolute p = true)
    (h : name ∈ components p) : IsName name := by
  rw [components_eq_foldl, hp, List.mem_reverse] at h
  exact isName_foldl (fun part hpart => (mem_parts hpart).2) (by simp) name h

theorem foldl_addComponent {rooted : Bool} {found names : List Text}
    (hdots : (".." : Text) ∉ found) (hfound : ∀ part ∈ found, part ≠ [] ∧ '/' ∉ part) :
    found.foldl (addComponent rooted) names
      = (found.filter (· != ("." : Text))).reverse ++ names := by
  induction found generalizing names with
  | nil => rfl
  | cons part found ih =>
    obtain ⟨hpart, hrest⟩ := List.forall_mem_cons.1 hfound
    rw [List.mem_cons, not_or] at hdots
    rw [List.foldl_cons, ih hdots.2 hrest]
    by_cases hdot : part = "."
    · rw [hdot, addComponent_dot, List.filter_cons_of_neg (by simp)]
    · rw [addComponent_of_isName ⟨hpart.1, hdot, Ne.symm hdots.1, hpart.2⟩,
        List.filter_cons_of_pos (by simpa using hdot)]
      simp

/-- **The components of a path without two dots** are its parts, less single dots. -/
theorem components_eq {p : Text} (hp : (".." : Text) ∉ parts p) :
    components p = (parts p).filter (· != ("." : Text)) := by
  rw [components_eq_foldl, foldl_addComponent hp fun part hpart => mem_parts hpart,
    List.append_nil, List.reverse_reverse]

/-! ## Normal paths from the root -/

/-- The normal path of slashes at the start and names. -/
def written (slashes : Nat) (names : List Text) : Text :=
  List.replicate slashes '/' ++ List.intercalate ['/'] names

theorem rootSlashes_cases {p : Text} (hp : isAbsolute p = true) :
    rootSlashes p = 1 ∨ rootSlashes p = 2 := by
  obtain ⟨rest, rfl⟩ := exists_of_isAbsolute hp
  rw [rootSlashes]
  split
  · rename_i hlength
    exact absurd hlength (by simp)
  · exact .inr rfl
  · exact .inl rfl

theorem normal_eq_written {p : Text} (hp : isAbsolute p = true) :
    normal p = written (rootSlashes p) (components p) := by
  have hne : (written (rootSlashes p) (components p)).isEmpty = false := by
    rcases rootSlashes_cases hp with h | h <;> rw [h] <;> rfl
  rw [normal, ← written, hne]
  rfl

section Written

variable {slashes : Nat} {names : List Text}

/-- The slashes that a path starts with are counted, if there are one or two. -/
theorem rootSlashes_replicate (hslashes : slashes = 1 ∨ slashes = 2) {t : Text}
    (ht : isAbsolute t = false) : rootSlashes (List.replicate slashes '/' ++ t) = slashes := by
  have htake : t.takeWhile (· == '/') = [] := by
    cases t with
    | nil => rfl
    | cons c cs => exact List.takeWhile_cons_of_neg (by simpa [isAbsolute] using ht)
  have hlength : ((List.replicate slashes '/' ++ t).takeWhile (· == '/')).length = slashes := by
    rw [List.takeWhile_append_of_pos (by simp), htake, List.append_nil, List.length_replicate]
  rw [rootSlashes, hlength]
  rcases hslashes with rfl | rfl
  · rfl
  · rfl

theorem isAbsolute_append {name : Text} (hname : IsName name) (t : Text) :
    isAbsolute (name ++ t) = false := by
  obtain ⟨c, cs, rfl⟩ := List.exists_cons_of_ne_nil hname.ne_nil
  have hc : c ≠ '/' := fun h => hname.noSlash (h ▸ List.mem_cons_self)
  simpa [isAbsolute] using hc

/-- Names start with no slash, and neither do several of them before a text. -/
theorem isAbsolute_intercalate_append (hnames : ∀ name ∈ names, IsName name) {t : Text}
    (ht : names = [] → isAbsolute t = false) :
    isAbsolute (List.intercalate ['/'] names ++ t) = false := by
  match names with
  | [] => exact ht rfl
  | [name] =>
    rw [List.intercalate_singleton]
    exact isAbsolute_append (hnames name (by simp)) t
  | name :: next :: rest =>
    rw [List.intercalate_cons_cons, List.append_assoc, List.append_assoc]
    exact isAbsolute_append (hnames name (by simp)) _

theorem rootSlashes_written (hslashes : slashes = 1 ∨ slashes = 2)
    (hnames : ∀ name ∈ names, IsName name) : rootSlashes (written slashes names) = slashes := by
  rw [written, ← List.append_nil (List.intercalate _ _)]
  exact rootSlashes_replicate hslashes (isAbsolute_intercalate_append hnames fun _ => rfl)

theorem parts_replicate (slashes : Nat) (t : Text) :
    parts (List.replicate slashes '/' ++ t) = parts t := by
  induction slashes with
  | zero => rfl
  | succ n ih =>
    rw [List.replicate_succ, List.cons_append, parts, Text.pieces_cons_pos (by rfl), ← parts, ih]

theorem parts_written (hnames : ∀ name ∈ names, IsName name) :
    parts (written slashes names) = names := by
  rw [written, parts_replicate]
  by_cases hnil : names = []
  · rw [hnil]
    rfl
  have hsplit : (List.intercalate ['/'] names).splitOnP (· == '/') = names :=
    List.splitOn_intercalate '/' (fun name h => (hnames name h).noSlash) hnil
  rw [parts, Text.pieces, hsplit, List.filter_eq_self]
  exact fun name h => by simpa using (hnames name h).ne_nil

theorem components_written (hnames : ∀ name ∈ names, IsName name) :
    components (written slashes names) = names := by
  have hparts : parts (written slashes names) = names := parts_written hnames
  have hdots : (".." : Text) ∉ parts (written slashes names) := by
    rw [hparts]
    exact fun h => (hnames _ h).ne_dots rfl
  rw [components_eq hdots, hparts, List.filter_eq_self]
  exact fun name h => by simpa using (hnames name h).ne_dot

/-! ## Below a path -/

theorem written_concat (hne : names ≠ []) (name : Text) :
    written slashes (names ++ [name]) = written slashes names ++ '/' :: name := by
  have hjoin : List.intercalate ['/'] (names ++ [name])
      = List.intercalate ['/'] names ++ '/' :: name := by
    induction names with
    | nil => exact absurd rfl hne
    | cons first rest ih =>
      cases rest with
      | nil => simp [List.intercalate_cons_cons]
      | cons next more =>
        rw [List.cons_append, List.cons_append, List.intercalate_cons_cons,
          List.intercalate_cons_cons, ← List.cons_append, ih (by simp)]
        simp only [List.append_assoc]
  rw [written, hjoin, ← List.append_assoc, ← written]

/-- A normal path ends with a slash only if it has no names. -/
theorem getLast?_written (hnames : ∀ name ∈ names, IsName name) (hne : names ≠ []) :
    (written slashes names).getLast? ≠ some '/' := by
  obtain ⟨init, last, rfl⟩ := (List.eq_nil_or_concat names).resolve_left hne
  have hlast : IsName last := hnames last (by simp)
  have hend : ∃ front, written slashes (init ++ [last]) = front ++ last := by
    by_cases hinit : init = []
    · exact ⟨List.replicate slashes '/', by simp [hinit, written]⟩
    · exact ⟨written slashes init ++ ['/'], by simp [written_concat hinit]⟩
  obtain ⟨front, hfront⟩ := hend
  rw [List.concat_eq_append, hfront, List.getLast?_append_of_ne_nil _ hlast.ne_nil]
  exact fun h => hlast.noSlash (List.mem_of_getLast? h)

/-- What is put below a normal path stands behind a slash. -/
theorem join_written (hslashes : slashes = 1 ∨ slashes = 2) (hnames : ∀ name ∈ names, IsName name)
    {t : Text} (ht : isAbsolute t = false) :
    join (written slashes names) t =
      if names = [] then List.replicate slashes '/' ++ t
      else written slashes names ++ '/' :: t := by
  rw [join, if_neg (by simp [ht])]
  by_cases hnil : names = []
  · rw [if_pos hnil, hnil]
    rcases hslashes with rfl | rfl
    · rfl
    · rfl
  · have hempty : written slashes names ≠ [] := by
      rcases hslashes with rfl | rfl <;> simp [written]
    rw [if_neg hnil, if_neg]
    simpa [hempty] using getLast?_written hnames hnil

theorem join_written_isName (hslashes : slashes = 1 ∨ slashes = 2)
    (hnames : ∀ name ∈ names, IsName name) {name : Text} (hname : IsName name) :
    join (written slashes names) name = written slashes (names ++ [name]) := by
  have hrelative : isAbsolute name = false := by simpa using isAbsolute_append hname []
  rw [join_written hslashes hnames hrelative]
  split
  · rename_i hnil
    rw [hnil]
    simp [written]
  · rename_i hne
    rw [written_concat hne]

theorem foldl_join_written (hslashes : slashes = 1 ∨ slashes = 2)
    (hnames : ∀ name ∈ names, IsName name) {more : List Text} (hmore : ∀ name ∈ more, IsName name) :
    more.foldl join (written slashes names) = written slashes (names ++ more) := by
  induction more generalizing names with
  | nil => simp
  | cons name more ih =>
    obtain ⟨hname, hrest⟩ := List.forall_mem_cons.1 hmore
    have hlonger : ∀ n ∈ names ++ [name], IsName n :=
      List.forall_mem_append.2 ⟨hnames, by simpa using hname⟩
    rw [List.foldl_cons, join_written_isName hslashes hnames hname, ih hlonger hrest,
      List.append_assoc, List.singleton_append]

end Written

/-- An absolute path in normal form. -/
structure IsNormal (p : Text) : Prop where
  isAbsolute : isAbsolute p = true
  normal_eq : normal p = p

theorem IsNormal.eq_written {base : Text} (h : IsNormal base) :
    base = written (rootSlashes base) (components base) := by
  rw [← normal_eq_written h.isAbsolute, h.normal_eq]

theorem IsNormal.isName_of_mem {base : Text} (h : IsNormal base) :
    ∀ name ∈ components base, IsName name :=
  fun _ => isName_of_mem_components h.isAbsolute

/-- **Within a normal path** is what starts with as many slashes and with its names. -/
theorem within_normal_iff {base p : Text} (hbase : IsNormal base) (hp : isAbsolute p = true) :
    Within base (normal p) ↔
      rootSlashes p = rootSlashes base ∧ components base <+: components p := by
  have hslashes := rootSlashes_cases hbase.isAbsolute
  have hnames := hbase.isName_of_mem
  have hnames' : ∀ name ∈ components p, IsName name := fun _ => isName_of_mem_components hp
  rw [normal_eq_written hp]
  constructor
  · rintro ⟨more, hmore, heq⟩
    rw [hbase.eq_written, foldl_join_written hslashes hnames hmore] at heq
    have hall : ∀ name ∈ components base ++ more, IsName name :=
      List.forall_mem_append.2 ⟨hnames, hmore⟩
    have hroot := congrArg rootSlashes heq
    have hcomponents := congrArg components heq
    rw [rootSlashes_written (rootSlashes_cases hp) hnames',
      rootSlashes_written hslashes hall] at hroot
    rw [components_written hnames', components_written hall] at hcomponents
    exact ⟨hroot, hcomponents ▸ List.prefix_append _ _⟩
  · rintro ⟨hroot, more, hmore⟩
    have hrest : ∀ name ∈ more, IsName name :=
      fun name h => hnames' name (hmore ▸ List.mem_append_right _ h)
    refine ⟨more, hrest, ?_⟩
    rw [hroot, ← hmore, ← foldl_join_written hslashes hnames hrest, ← hbase.eq_written]

/-! ## Addresses -/

theorem parts_join (base : Text) {t : Text} (ht : isAbsolute t = false) :
    parts (join base t) = parts base ++ parts t := by
  rw [join, if_neg (by simp [ht])]
  split
  · rename_i hend
    rw [Bool.or_eq_true, List.isEmpty_iff, beq_iff_eq] at hend
    rcases hend with rfl | hlast
    · rfl
    · exact Text.pieces_append_of_parted (.inl ⟨'/', hlast, rfl⟩)
  · exact Text.pieces_append_cons (by rfl) base t

theorem rootSlashes_join {base t : Text} (hbase : IsNormal base) (ht : isAbsolute t = false) :
    rootSlashes (join base t) = rootSlashes base := by
  have hslashes := rootSlashes_cases hbase.isAbsolute
  have hnames := hbase.isName_of_mem
  have hjoin : rootSlashes (join (written (rootSlashes base) (components base)) t)
      = rootSlashes base := by
    rw [join_written hslashes hnames ht]
    split
    · exact rootSlashes_replicate hslashes ht
    · rename_i hne
      rw [written, List.append_assoc]
      exact rootSlashes_replicate hslashes
        (isAbsolute_intercalate_append hnames fun hnil => absurd hnil hne)
  rwa [← hbase.eq_written] at hjoin

/-- **What is put below a normal path**, without two dots, stays there. -/
theorem within_normal_join {base t : Text} (hbase : IsNormal base) (ht : isAbsolute t = false)
    (hdots : (".." : Text) ∉ parts t) : Within base (normal (join base t)) := by
  rw [within_normal_iff hbase (isAbsolute_join hbase.isAbsolute t)]
  have hnames := hbase.isName_of_mem
  have hparts : parts base = components base := by
    rw [hbase.eq_written, parts_written hnames, components_written hnames]
  have hnodots : (".." : Text) ∉ parts (join base t) := by
    rw [parts_join base ht, hparts, List.mem_append, not_or]
    exact ⟨fun h => (hnames _ h).ne_dots rfl, hdots⟩
  have hkept : (components base).filter (· != ("." : Text)) = components base :=
    List.filter_eq_self.2 fun name h => by simpa using (hnames name h).ne_dot
  refine ⟨rootSlashes_join hbase ht, ?_⟩
  rw [components_eq hnodots, parts_join base ht, hparts, List.filter_append, hkept]
  exact List.prefix_append _ _

theorem absolute_of_isAbsolute (cwd : Text) {p : Text} (hp : isAbsolute p = true) :
    absolute cwd p = normal p := by
  rw [absolute, join, if_pos hp]

end Path

namespace Disk

theorem resolve_slash {d : Disk} (hroot : Path.isAbsolute d.cwd = true) (dir rest : Text) :
    d.resolve dir ('/' :: rest) = Path.normal (Path.join d.cwd rest) :=
  Path.absolute_of_isAbsolute d.cwd (Path.isAbsolute_join hroot rest)

theorem resolve_relative (d : Disk) {dir address : Text} (hdir : Path.isAbsolute dir = true)
    (haddress : Path.isAbsolute address = false) :
    d.resolve dir address = Path.normal (Path.join dir address) := by
  rw [resolve]
  · exact Path.absolute_of_isAbsolute d.cwd (Path.isAbsolute_join hdir address)
  · rintro rest rfl
    cases haddress

/-- **Where an address without two dots leads.**  It leads to its base or below it, the root of the
site for an address that starts with a slash and the directory of the file for any other, except
for an address that starts with two slashes.  That one is a path of its own behind the first slash,
and leads there only if that path starts with the slashes and names of the root. -/
theorem resolve_within_iff (d : Disk) {dir address : Text} (hroot : Path.IsNormal d.cwd)
    (hdir : Path.IsNormal dir) (hdots : (".." : Text) ∉ Text.splitOn '/' address) :
    Path.Within (if Path.isAbsolute address then d.cwd else dir) (d.resolve dir address) ↔
      ∀ rest, address = '/' :: rest → Path.isAbsolute rest = true →
        Path.rootSlashes rest = Path.rootSlashes d.cwd ∧
          Path.components d.cwd <+: Path.components rest := by
  have hparts : (".." : Text) ∉ Path.parts address := by
    rw [Text.splitOn_eq] at hdots
    exact fun h => hdots (List.mem_of_mem_filter h)
  by_cases hslash : Path.isAbsolute address = true
  · obtain ⟨rest, rfl⟩ := Path.exists_of_isAbsolute hslash
    rw [if_pos hslash, resolve_slash hroot.isAbsolute]
    by_cases hrest : Path.isAbsolute rest = true
    · have hjoin : Path.join d.cwd rest = rest := if_pos hrest
      rw [hjoin, Path.within_normal_iff hroot hrest]
      constructor
      · rintro h _ ⟨⟩ -
        exact h
      · exact fun h => h rest rfl hrest
    · have hbehind : (".." : Text) ∉ Path.parts rest := by
        rwa [Path.parts, Text.pieces_cons_pos (by rfl)] at hparts
      refine iff_of_true (Path.within_normal_join hroot (by simpa using hrest) hbehind) ?_
      rintro _ ⟨⟩ habsolute
      exact absurd habsolute hrest
  · have hrelative : Path.isAbsolute address = false := by simpa using hslash
    rw [if_neg hslash, resolve_relative d hdir.isAbsolute hrelative]
    refine iff_of_true (Path.within_normal_join hdir hrelative hparts) ?_
    rintro rest rfl
    cases hrelative

/-- An address with needless slashes and dots leads below the directory of its file, and one that
starts with two slashes may lead back to the site. -/
theorem resolve_within_iff_site :
    let d : Disk := { cwd := "/site" }
    Path.Within "/site/a" (d.resolve "/site/a" "./b//c/.") ∧
      Path.Within "/site" (d.resolve "/site/a" "//site/./d") := by
  intro d
  have hroot : Path.IsNormal d.cwd := ⟨by decide, by decide⟩
  have hdir : Path.IsNormal "/site/a" := ⟨by decide, by decide⟩
  have hdots : (".." : Text) ∉ Text.splitOn '/' "./b//c/." := by decide
  have hdots' : (".." : Text) ∉ Text.splitOn '/' "//site/./d" := by decide
  constructor
  · have hhead : ("./b//c/." : Text).head? ≠ some '/' := by decide
    exact (d.resolve_within_iff hroot hdir hdots).2 fun rest h =>
      absurd (congrArg List.head? h) hhead
  · refine (d.resolve_within_iff hroot hdir hdots').2 fun rest h _ => ?_
    have hrest : rest = "/site/./d" := (List.cons.inj h).2.symm
    rw [hrest]
    decide

/-- An address that starts with two slashes leads out of the site. -/
theorem resolve_not_within :
    let d : Disk := { cwd := "/site" }
    Path.IsNormal d.cwd ∧ (".." : Text) ∉ Text.splitOn '/' "//etc/passwd" ∧
      d.resolve d.cwd "//etc/passwd" = "/etc/passwd" ∧
      ¬ Path.Within d.cwd (d.resolve d.cwd "//etc/passwd") := by
  intro d
  have hroot : Path.IsNormal d.cwd := ⟨by decide, by decide⟩
  have hresolve : d.resolve d.cwd "//etc/passwd" = Path.normal "/etc/passwd" := by decide
  refine ⟨hroot, by decide, by decide, fun h => ?_⟩
  rw [hresolve, Path.within_normal_iff hroot (by decide)] at h
  exact absurd h.2 (by decide)

end Disk

end PagePress

import Mathlib.Data.List.Forall2
import PagePress.Proofs.Blanks
import PagePress.Proofs.Clients
import PagePress.Proofs.Forms
import PagePress.Proofs.Stylesheets

/-!
# The bundle of scripts

The scripts of a page are gone through one by one, told about on the way, joined and sent to the
compile service.  This file says what is sent and what comes out, by what each script adds.

* `Bundle.NamesFile` are the scripts that name a file which is there, and `Bundle.Adds` is what a
  script adds: the text in the page, the text of its file, or nothing.
* `Bundle.Adds.scriptText_outcome` is one script, and `Bundle.scriptsText_outcome` follows all of
  them.
* `Bundle.Holds` is what a reply holds between blanks.
* `Bundle.scripts_exchange` concludes.  The service is asked once, and only if there is something to
  ask for.
-/

set_option autoImplicit false

namespace PagePress.Bundle

variable {k : Toolkit} {d : Disk} {dir : Text} {script : Node} {nodes : List Node}
  {texts : List Text} {s : Service}

/-! ## One script -/

/-- The script names a file that is there: its address is neither empty nor remote, and there is
something at its path. -/
def NamesFile (d : Disk) (dir : Text) (script : Node) (path : Text) : Prop :=
  ∃ src, script.attribute? "src" = some src ∧ src ≠ [] ∧
    (∀ scheme ∈ remoteSchemes, ¬ scheme <+: src) ∧ d.resolve dir src = path ∧
    d.isThere path = true

/-- What a script adds to the bundle of a page in the given directory. -/
inductive Adds (k : Toolkit) (d : Disk) (dir : Text) (script : Node) : Text → Prop
  /-- A script without an address adds the text that it has in the page. -/
  | inPage (haddress : ∀ src ∈ script.attribute? "src", src = []) :
    Adds k d dir script (k.inlineText script)
  /-- A script that names a file adds the text of the file. -/
  | file {path text : Text} (hpath : NamesFile d dir script path)
    (hread : d.readText path = .ok text) : Adds k d dir script text
  /-- A script whose address is remote, or that of no file, adds nothing. -/
  | nothing {src : Text} (haddress : script.attribute? "src" = some src) (hne : src ≠ [])
    (hskip : (∃ scheme ∈ remoteSchemes, scheme <+: src) ∨
      d.isThere (d.resolve dir src) = false) : Adds k d dir script []

theorem scriptText_inPage (haddress : ∀ src ∈ script.attribute? "src", src = []) :
    (scriptText k d dir script).outcome = .ok (k.inlineText script) := by
  rw [scriptText]
  cases hsrc : script.attribute? "src" with
  | none => rfl
  | some src =>
    cases haddress src hsrc
    rfl

theorem scriptText_address {src : Text} (hsrc : script.attribute? "src" = some src)
    (hne : src ≠ []) :
    (scriptText k d dir script).outcome =
      if isRemote src then .ok []
      else if d.isThere (d.resolve dir src) then d.readText (d.resolve dir src)
      else .ok [] := by
  obtain ⟨c, cs, rfl⟩ := List.exists_cons_of_ne_nil hne
  rw [scriptText, hsrc]
  dsimp only
  cases isRemote (c :: cs) with
  | true => rfl
  | false => cases d.isThere (d.resolve dir (c :: cs)) <;> rfl

theorem NamesFile.scriptText_outcome {path : Text} (h : NamesFile d dir script path) :
    (scriptText k d dir script).outcome = d.readText path := by
  obtain ⟨src, hsrc, hne, hlocal, rfl, hthere⟩ := h
  have hremote : ¬ isRemote src = true := fun h =>
    let ⟨scheme, hscheme, hstart⟩ := isRemote_iff.1 h
    hlocal scheme hscheme hstart
  rw [scriptText_address hsrc hne, if_neg hremote, if_pos hthere]

/-- **One script** is read without a fault as what it adds. -/
theorem Adds.scriptText_outcome {t : Text} (h : Adds k d dir script t) :
    (scriptText k d dir script).outcome = .ok t := by
  cases h with
  | inPage haddress => exact scriptText_inPage haddress
  | file hpath hread => rw [hpath.scriptText_outcome, hread]
  | nothing hsrc hne hskip =>
    rw [scriptText_address hsrc hne]
    rcases hskip with hremote | hthere
    · exact if_pos (isRemote_iff.2 hremote)
    · rw [hthere]
      split <;> rfl

/-- **A script adds something exactly if its file can be read**, or it names none. -/
theorem exists_adds_iff : (∃ t, Adds k d dir script t) ↔
    ∀ path, NamesFile d dir script path → ∃ text, d.readText path = .ok text := by
  constructor
  · rintro ⟨t, ht⟩ path hpath
    exact ⟨t, hpath.scriptText_outcome ▸ ht.scriptText_outcome⟩
  intro hread
  by_cases haddress : ∀ src ∈ script.attribute? "src", src = []
  · exact ⟨_, .inPage haddress⟩
  obtain ⟨src, hsrc, hne⟩ : ∃ src, script.attribute? "src" = some src ∧ src ≠ [] := by
    simpa using haddress
  by_cases hskip : (∃ scheme ∈ remoteSchemes, scheme <+: src) ∨
      d.isThere (d.resolve dir src) = false
  · exact ⟨[], .nothing hsrc hne hskip⟩
  · have hpath : NamesFile d dir script (d.resolve dir src) :=
      ⟨src, hsrc, hne, fun scheme hscheme hstart => hskip (.inl ⟨scheme, hscheme, hstart⟩), rfl,
        by simpa using fun h => hskip (.inr h)⟩
    obtain ⟨text, htext⟩ := hread _ hpath
    exact ⟨text, .file hpath htext⟩

/-! ## All scripts -/

/-- **The scripts one after the other** are joined as what they add. -/
theorem scriptsText_outcome (h : List.Forall₂ (Adds k d dir) nodes texts) :
    (scriptsText k d dir nodes).outcome = .ok texts.flatten := by
  induction h with
  | nil => rfl
  | cons hscript hrest ih =>
    simp only [scriptsText, Journal.outcome_bind, hscript.scriptText_outcome, ih]
    rfl

theorem exists_forall₂_adds_iff : (∃ texts, List.Forall₂ (Adds k d dir) nodes texts) ↔
    ∀ script ∈ nodes, ∀ path, NamesFile d dir script path →
      ∃ text, d.readText path = .ok text := by
  simp only [← exists_adds_iff (k := k)]
  induction nodes with
  | nil => simp
  | cons script rest ih =>
    simp only [List.forall_mem_cons, ← ih, List.forall₂_cons_left_iff]
    constructor
    · rintro ⟨_, text, texts, htext, htexts, rfl⟩
      exact ⟨⟨text, htext⟩, texts, htexts⟩
    · rintro ⟨⟨text, htext⟩, texts, htexts⟩
      exact ⟨_, text, texts, htext, htexts, rfl⟩

/-! ## The exchange with the service -/

/-- Scripts that are empty together ask for nothing, be the service there or not. -/
theorem scripts_of_nil (hcode : (scriptsText k d dir nodes).outcome = .ok [])
    (service : Option Service) :
    (scripts k d service dir nodes).1.outcome = .ok none ∧
      (scripts k d service dir nodes).2 = service := by
  simp only [scripts, hcode]
  exact ⟨rfl, rfl⟩

/-- Without the service there is no bundle of scripts that are not empty. -/
theorem scripts_of_missing {code : Text} (hcode : (scriptsText k d dir nodes).outcome = .ok code)
    (hne : code ≠ []) :
    (scripts k d none dir nodes).1.outcome = .error .serviceMissing ∧
      (scripts k d none dir nodes).2 = none := by
  rw [scripts_eq_compile hcode hne]
  exact ⟨rfl, rfl⟩

/-- Scripts that are not empty are sent once, whatever the service says. -/
theorem scripts_service {code : Text} (hcode : (scriptsText k d dir nodes).outcome = .ok code)
    (hne : code ≠ []) :
    (scripts k d (some s) dir nodes).2 =
      some { replies := s.replies.tail
             requests := s.requests ++
               [Service.compileRequest Service.plainHeaders ("js_code", code)] } := by
  rw [scripts_eq_compile hcode hne, Service.compile_code]

/-- What a reply holds: the reply without carriage returns, line feeds, spaces and tabs at its
ends. -/
structure Holds (reply answer : Text) : Prop where
  eq : ∃ lead trail, reply = lead ++ answer ++ trail ∧
    ∀ c ∈ lead ++ trail, c = '\r' ∨ c = '\n' ∨ c = ' ' ∨ c = '\t'
  head : ∀ c ∈ answer.head?, ¬ (c = '\r' ∨ c = '\n' ∨ c = ' ' ∨ c = '\t')
  last : ∀ c ∈ answer.getLast?, ¬ (c = '\r' ∨ c = '\n' ∨ c = ' ' ∨ c = '\t')

theorem isReplyBlank_iff {c : Char} :
    isReplyBlank c = true ↔ c = '\r' ∨ c = '\n' ∨ c = ' ' ∨ c = '\t' := by
  simp only [isReplyBlank, Bool.or_eq_true, beq_iff_eq, or_assoc]

theorem holds_iff {reply answer : Text} : Holds reply answer ↔ trimReply reply = answer := by
  have hnot : ∀ c, isReplyBlank c = false ↔ ¬ (c = '\r' ∨ c = '\n' ∨ c = ' ' ∨ c = '\t') :=
    fun c => by rw [← isReplyBlank_iff, Bool.not_eq_true]
  constructor
  · rintro ⟨⟨lead, trail, rfl, hends⟩, hhead, hlast⟩
    exact Text.trimmed_eq
      (fun c hc => isReplyBlank_iff.2 (hends c (List.mem_append_left _ hc)))
      (fun c hc => isReplyBlank_iff.2 (hends c (List.mem_append_right _ hc)))
      (fun c hc => (hnot c).2 (hhead c hc)) fun c hc => (hnot c).2 (hlast c hc)
  · rintro rfl
    obtain ⟨lead, trail, heq, hlead, htrail, hhead, hlast⟩ :=
      Text.exists_trimmed isReplyBlank reply
    refine ⟨⟨lead, trail, heq, fun c hc => ?_⟩, fun c hc => (hnot c).1 (hhead c hc),
      fun c hc => (hnot c).1 (hlast c hc)⟩
    rcases List.mem_append.1 hc with hc | hc
    · exact isReplyBlank_iff.1 (hlead c hc)
    · exact isReplyBlank_iff.1 (htrail c hc)

/-- **What is sent for the scripts of a page, and what becomes of the reply.**  Where every file can
be read, each script adds its text in the page, the text of its file, or nothing.  If all of that
together is empty there is no bundle, and the service is not asked.  Else the service is asked once,
to compile just that, and the bundle is what its reply holds, if it holds anything; where the
service is not there at all, bundling fails. -/
theorem scripts_exchange {reply : Text} {rest : List Text} (hreplies : s.replies = reply :: rest)
    (hread : ∀ script ∈ nodes, ∀ path, NamesFile d dir script path →
      ∃ text, d.readText path = .ok text) :
    (∃ texts, List.Forall₂ (Adds k d dir) nodes texts) ∧ (∃ answer, Holds reply answer) ∧
      ∀ texts, List.Forall₂ (Adds k d dir) nodes texts → ∀ answer, Holds reply answer →
        let bundle := scripts k d (some s) dir nodes
        (texts.flatten = [] → bundle.1.outcome = .ok none ∧ bundle.2 = some s) ∧
        (texts.flatten ≠ [] →
          bundle.1.outcome = .ok (if answer = [] then none else some answer) ∧
          ∃ request, request.value? "js_code" = some texts.flatten ∧
            bundle.2 = some { replies := rest, requests := s.requests ++ [request] }) ∧
        let unserved := scripts k d none dir nodes
        unserved.2 = none ∧
        unserved.1.outcome = if texts.flatten = [] then .ok none else .error .serviceMissing := by
  refine ⟨exists_forall₂_adds_iff.2 hread, ⟨_, holds_iff.2 rfl⟩, ?_⟩
  intro texts htexts answer hanswer bundle
  have hcode := scriptsText_outcome htexts
  refine ⟨fun hnil => scripts_of_nil (hnil ▸ hcode) (some s), fun hne => ⟨?_, ?_⟩, ?_⟩
  · have houtcome : bundle.1.outcome = _ :=
      scripts_outcome hcode hne (congrArg List.head? hreplies)
    rw [houtcome, holds_iff.1 hanswer, nonempty?]
    cases answer <;> rfl
  · have hservice : bundle.2 = _ := scripts_service hcode hne
    refine ⟨_, Service.value?_compileRequest Service.plainHeaders _, ?_⟩
    rw [hservice, hreplies]
    rfl
  · intro unserved
    by_cases hnil : texts.flatten = []
    · rw [if_pos hnil]
      exact (scripts_of_nil (hnil ▸ hcode) none).symm
    · rw [if_neg hnil]
      exact (scripts_of_missing hcode hnil).symm

/-- A page with a script in the page, one in a file, a remote one and one that names no file.  The
first two are sent together, and the blanks around the reply are left away.  Without the service the
page has no bundle. -/
theorem scripts_exchange_page :
    let d : Disk := { files := [("/site/a.js", Utf8.encode "f();")] }
    let linked (src : Text) : Node := .element "script" [⟨"src", some src⟩] []
    let nodes : List Node :=
      [.element "script" [] [.text " g(); "], linked "a.js", linked "http://x/y.js", linked "no.js"]
    let s : Service := { replies := [("\n h() " : Text)] }
    (scripts {} d (some s) "/site" nodes).1.outcome = .ok (some ("h()" : Text)) ∧
      (∃ request, request.value? "js_code" = some ("g();f();" : Text) ∧
        (scripts {} d (some s) "/site" nodes).2 = some { replies := [], requests := [request] }) ∧
      (scripts {} d none "/site" nodes).1.outcome = .error .serviceMissing := by
  intro d linked nodes s
  have hfile : NamesFile d "/site" (linked "a.js") "/site/a.js" :=
    ⟨"a.js", rfl, by decide, by decide, by decide +kernel, by decide +kernel⟩
  have htext : d.readText "/site/a.js" = .ok ("f();" : Text) := by decide +kernel
  have hinline : ({} : Toolkit).inlineText (.element "script" [] [.text " g(); "]) = "g();" := by
    decide +kernel
  have htexts : List.Forall₂ (Adds {} d "/site") nodes ["g();", "f();", [], []] := by
    refine .cons (hinline ▸ .inPage nofun) (.cons (.file hfile htext) (.cons ?_ (.cons ?_ .nil)))
    · exact .nothing rfl (by decide) (.inl ⟨"http://", by decide, by decide⟩)
    · exact .nothing rfl (by decide) (.inr (by decide +kernel))
  obtain ⟨-, -, hbundle⟩ :=
    scripts_exchange (k := {}) (s := s) rfl (exists_forall₂_adds_iff.1 ⟨_, htexts⟩)
  have hjoin : (["g();", "f();", [], []] : List Text).flatten = "g();f();" := by decide
  have hanswer : Holds "\n h() " "h()" := holds_iff.2 (by decide)
  obtain ⟨-, hsent, -, hunserved⟩ := hbundle _ htexts "h()" hanswer
  have hne : (["g();", "f();", [], []] : List Text).flatten ≠ [] := hjoin ▸ by decide
  obtain ⟨houtcome, request, hrequest, hservice⟩ := hsent hne
  rw [if_neg (by decide)] at houtcome
  rw [hjoin] at hrequest
  exact ⟨houtcome, ⟨request, hrequest, hservice⟩, hunserved.trans (if_neg hne)⟩

end PagePress.Bundle

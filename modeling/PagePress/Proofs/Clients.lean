import PagePress.Bundle.Script
import PagePress.Proofs.Exchange

/-!
# Two clients of the compile service

The compile service answers an error message, or nothing, with the same status as a script.  Of its
two clients the one that stands in for the script compactor looks at the reply: a refusal is
answered with the code itself.  The plain client, which makes the bundle of scripts of a page, hands
every reply on.

* `Service.compile_code` says what the plain client does, as `Tools.compile_code` says it of the
  other.
* `Tools.received_congr_iff` says when it makes no difference to have looked at a reply.
* `Bundle.scripts_eq_compile` says that the scripts of a page go through the plain client, and
  `Bundle.scripts_outcome` what bundle comes out of a reply.
* `Service.compile_eq_compactScript_iff` puts them side by side, for a script and for a page.
-/

set_option autoImplicit false

namespace PagePress

/-! ## What each client answers -/

/-- The plain client takes the next reply as it is.  Its request is on record also where there is
none. -/
theorem Service.compile_code (s : Service) (code : Text) :
    compile (some s) (some code) none =
      (s.replies.head?.elim (.error .noReply) .ok,
        some
          { replies := s.replies.tail
            requests := s.requests ++ [compileRequest plainHeaders ("js_code", code)] }) := by
  rw [compile, source?]
  dsimp only
  rw [send]
  cases s.replies with
  | nil => rfl
  | cons reply rest => rfl

namespace Tools

theorem received_of_isRefused {code reply : Text} (h : IsRefused reply) :
    received code reply = code := if_pos h

theorem received_of_not_isRefused {code reply : Text} (h : ¬ IsRefused reply) :
    received code reply = reply := if_neg h

/-- What is made of the text that is received is what is made of the reply, unless the reply is a
refusal of a script of which something else is made. -/
theorem received_congr_iff {α : Type} (f : Text → α) {code reply : Text} :
    f (received code reply) = f reply ↔ (IsRefused reply → f reply = f code) := by
  by_cases h : IsRefused reply
  · rw [received_of_isRefused h]
    exact ⟨fun heq _ => heq.symm, fun himp => (himp h).symm⟩
  · rw [received_of_not_isRefused h]
    exact ⟨fun _ hrefused => absurd hrefused h, fun _ => rfl⟩

theorem compactScript_code (tools : Tools) (s : Service) (code : Text) :
    { tools with script := false }.compactScript s (some code) none =
      (s.replies.head?.elim (.error .noReply) fun reply => .ok (received code reply),
        { replies := s.replies.tail, requests := s.requests ++ [request code] }) := by
  rw [compactScript]
  dsimp only
  rw [if_neg Bool.false_ne_true, Tools.compile_code]
  cases s.replies with
  | nil => rfl
  | cons reply rest => rfl

end Tools

/-! ## The bundle of a page -/

namespace Bundle

theorem nonempty?_inj {t u : Text} : nonempty? t = nonempty? u ↔ t = u := by
  cases t with
  | nil => cases u <;> simp [nonempty?]
  | cons c cs => cases u <;> simp [nonempty?]

section Scripts

variable {k : Toolkit} {d : Disk} {dir code : Text} {nodes : List Node}
  (hcode : (scriptsText k d dir nodes).outcome = .ok code) (hne : code ≠ [])
include hcode hne

/-- Scripts that are not empty go through the plain client, be the service there or not. -/
theorem scripts_eq_compile (service : Option Service) :
    scripts k d service dir nodes =
      (⟨(scriptsText k d dir nodes).lines,
          (Service.compile service (some code) none).1.map fun t => nonempty? (trimReply t)⟩,
        (Service.compile service (some code) none).2) := by
  have hempty : code.isEmpty = false := by simpa using hne
  simp only [scripts, hcode, hempty]
  rfl

/-- The bundle of scripts that are not empty is what the next reply leaves, without the blanks at
its ends. -/
theorem scripts_outcome {reply : Text} {s : Service} (hreply : s.replies.head? = some reply) :
    (scripts k d (some s) dir nodes).1.outcome = .ok (nonempty? (trimReply reply)) := by
  rw [scripts_eq_compile hcode hne, Service.compile_code, hreply]
  rfl

end Scripts

end Bundle

/-! ## Side by side -/

/-- **Where the two clients agree.**  They take the same reply, and give the same answer exactly if
the reply is no refusal, or is the script itself.  The bundle of a page is the one that the client
which looks at replies would make exactly if the reply is no refusal, or leaves the same as the
scripts of the page; else the scripts of the page are replaced by an error message, or dropped. -/
theorem Service.compile_eq_compactScript_iff (tools : Tools) (s : Service) (code : Text) :
    let plain := compile (some s) (some code) none
    let guarded := { tools with script := false }.compactScript s (some code) none
    plain.2.map (·.replies) = some guarded.2.replies ∧
      (∀ reply ∈ s.replies.head?, plain.1 = .ok reply ∧
        (IsRefused reply → guarded.1 = .ok code) ∧
        (¬ IsRefused reply → guarded.1 = .ok reply)) ∧
      (plain.1 = guarded.1 ↔ ∀ reply ∈ s.replies.head?, IsRefused reply → reply = code) ∧
      ∀ (k : Toolkit) (d : Disk) (dir : Text) (nodes : List Node),
        (Bundle.scriptsText k d dir nodes).outcome = .ok code → code ≠ [] →
          ∀ reply ∈ s.replies.head?, ∀ answer, guarded.1 = .ok answer →
            ((Bundle.scripts k d (some s) dir nodes).1.outcome
                = .ok (Bundle.nonempty? (Bundle.trimReply answer)) ↔
              (IsRefused reply → Bundle.trimReply reply = Bundle.trimReply code)) := by
  intro plain guarded
  have hplain : plain = _ := compile_code s code
  have hguarded : guarded = _ := Tools.compactScript_code tools s code
  rw [hplain, hguarded]
  refine ⟨rfl, ?_, ?_, ?_⟩
  · intro reply hreply
    rw [Option.mem_def] at hreply
    dsimp only
    rw [hreply]
    exact ⟨rfl, fun h => congrArg Except.ok (Tools.received_of_isRefused h),
      fun h => congrArg Except.ok (Tools.received_of_not_isRefused h)⟩
  · dsimp only
    cases s.replies.head? with
    | none => simp
    | some reply =>
      simp only [Option.elim_some, Except.ok.injEq, Option.mem_def, Option.some.injEq,
        forall_eq']
      exact eq_comm.trans (Tools.received_congr_iff id)
  · intro k d dir nodes hcode hne reply hreply answer hanswer
    rw [Option.mem_def] at hreply
    dsimp only at hanswer
    rw [hreply, Option.elim_some, Except.ok.injEq] at hanswer
    subst hanswer
    rw [Bundle.scripts_outcome hcode hne hreply, Except.ok.injEq, Bundle.nonempty?_inj]
    exact eq_comm.trans (Tools.received_congr_iff Bundle.trimReply)

/-- A page with two scripts, one of them in a file, for which the service sends an error message.
The client that looks at replies gives the two scripts back, and the bundle of the page is another
one. -/
theorem Service.compile_eq_compactScript_iff_page :
    let s : Service := { replies := [("Error(22): busy" : Text)] }
    let d : Disk := { files := [("/site/a.js", Utf8.encode "f();")] }
    let nodes : List Node :=
      [.element "script" [⟨"src", some "a.js"⟩] [], .element "script" [] [.text " g() "]]
    IsRefused "Error(22): busy" ∧
      (Bundle.scriptsText {} d "/site" nodes).outcome = .ok ("f();g()" : Text) ∧
      (({ script := false } : Tools).compactScript s (some "f();g()") none).1
        = .ok ("f();g()" : Text) ∧
      (Bundle.scripts {} d (some s) "/site" nodes).1.outcome ≠ .ok (some ("f();g()" : Text)) := by
  intro s d nodes
  have hrefused : IsRefused "Error(22): busy" := .inl (by decide)
  have hcode : (Bundle.scriptsText {} d "/site" nodes).outcome = .ok ("f();g()" : Text) := by
    decide +kernel
  obtain ⟨-, hanswers, -, hpage⟩ := compile_eq_compactScript_iff {} s "f();g()"
  have hanswer := (hanswers _ rfl).2.1 hrefused
  refine ⟨hrefused, hcode, hanswer, fun hbundle => ?_⟩
  have hsame := (hpage {} d "/site" nodes hcode (by decide) _ rfl _ hanswer).1 hbundle hrefused
  exact absurd hsame (by decide)

/-- Where the service sends an error message, the plain client gives the message for the script, and
the other one gives the script. -/
theorem Service.compile_ne_compactScript :
    let s : Service := { replies := [("Error(22): busy" : Text)] }
    (compile (some s) (some "var a;") none).1 = .ok ("Error(22): busy" : Text) ∧
      (({ script := false } : Tools).compactScript s (some "var a;") none).1
        = .ok ("var a;" : Text) := by
  decide +kernel

end PagePress

import PagePress.Fault

/-!
# Journals

A `Journal` is a result together with the lines that are told on the way to it.  What was told
before a fault stays told.

* `exists_of_bind_eq_ok` and the lemmas beside it take results apart.
* `Journal.andThen` goes on from a result; its two lemmas say what it does to a result and to a
  fault.
* `Journal.tell` and `Journal.silently` are the two smallest journals.
* The outcome of a journal is that of its steps: `Journal.outcome_bind` and the lemmas beside it.
-/

set_option autoImplicit false

namespace PagePress

/-! ## Results and faults -/

theorem ok_bind {α β : Type} (a : α) (f : α → Except Fault β) : (Except.ok a >>= f) = f a := rfl

/-- A result that comes of going on from another one. -/
theorem exists_of_bind_eq_ok {α β : Type} {r : Except Fault α} {f : α → Except Fault β} {y : β}
    (h : r >>= f = .ok y) : ∃ x, r = .ok x ∧ f x = .ok y := by
  cases r with
  | error fault => cases h
  | ok x => exact ⟨x, rfl, h⟩

theorem exists_of_map_eq_ok {α β : Type} {r : Except Fault α} {f : α → β} {y : β}
    (h : r.map f = .ok y) : ∃ x, r = .ok x ∧ f x = y := by
  cases r with
  | error fault => cases h
  | ok x => exact ⟨x, rfl, Except.ok.inj h⟩

/-! ## Journals -/

/-- A result and the lines told on the way to it. -/
structure Journal (α : Type) where
  lines : List Text
  outcome : Except Fault α

namespace Journal

/-- Goes on with a result, unless there is none. -/
def andThen {α β : Type} (j : Journal α) (f : α → Journal β) : Journal β :=
  match j.outcome with
  | .error fault => ⟨j.lines, .error fault⟩
  | .ok a => ⟨j.lines ++ (f a).lines, (f a).outcome⟩

/-- After a fault nothing is told. -/
@[simp]
theorem andThen_error {α β : Type} (lines : List Text) (fault : Fault) (f : α → Journal β) :
    andThen ⟨lines, .error fault⟩ f = ⟨lines, .error fault⟩ := rfl

/-- After a result its lines come first. -/
@[simp]
theorem andThen_ok {α β : Type} (lines : List Text) (a : α) (f : α → Journal β) :
    andThen ⟨lines, .ok a⟩ f = ⟨lines ++ (f a).lines, (f a).outcome⟩ := rfl

instance : Monad Journal where
  pure a := ⟨[], .ok a⟩
  bind := andThen

/-- Tells a line. -/
def tell (line : Text) : Journal Unit := ⟨[line], .ok ()⟩

/-- A result about which nothing is told. -/
def silently {α : Type} (outcome : Except Fault α) : Journal α := ⟨[], outcome⟩

/-! ## Outcomes -/

@[simp]
theorem outcome_pure {α : Type} (a : α) : (pure a : Journal α).outcome = pure a := rfl

@[simp]
theorem outcome_tell (line : Text) : (tell line).outcome = pure () := rfl

@[simp]
theorem outcome_silently {α : Type} (outcome : Except Fault α) :
    (silently outcome).outcome = outcome := rfl

@[simp]
theorem outcome_bind {α β : Type} (j : Journal α) (f : α → Journal β) :
    (j >>= f).outcome = j.outcome >>= fun a => (f a).outcome := by
  obtain ⟨lines, outcome⟩ := j
  cases outcome with
  | error fault => rfl
  | ok a => rfl

end Journal

end PagePress

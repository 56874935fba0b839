/-!
# Outcomes of calls that can fail

A result of calls in sequence comes from a result of each of them (`bind_eq_ok_iff`), and a failure
from the first that fails (`bind_eq_error`). So what holds of the errors of each holds of every
error (`errors_of_bind`).
-/

namespace CalloutHost

/-- Outcomes can be told apart where results and errors can. -/
instance decidableEqExcept {ε α : Type} [DecidableEq ε] [DecidableEq α] :
    DecidableEq (Except ε α)
  | .ok a, .ok b => decidable_of_iff (a = b) ⟨congrArg _, Except.ok.inj⟩
  | .error d, .error e => decidable_of_iff (d = e) ⟨congrArg _, Except.error.inj⟩
  | .ok _, .error _ => isFalse nofun
  | .error _, .ok _ => isFalse nofun

variable {ε ε' α β : Type} {x : Except ε α} {f : α → Except ε β} {g : ε → ε'}

theorem bind_eq_ok_iff {b : β} : x >>= f = .ok b ↔ ∃ a, x = .ok a ∧ f a = .ok b := by
  cases x with
  | ok a =>
    constructor
    · exact fun h => ⟨a, rfl, h⟩
    · rintro ⟨_, ⟨⟩, h⟩
      exact h
  | error e =>
    constructor
    · rintro ⟨⟩
    · rintro ⟨_, ⟨⟩, _⟩

theorem bind_eq_error {e : ε} (h : x >>= f = .error e) :
    x = .error e ∨ ∃ a, x = .ok a ∧ f a = .error e := by
  cases x with
  | ok a => exact .inr ⟨a, rfl, h⟩
  | error d =>
    cases h
    exact .inl rfl

/-- A check before the rest passes. -/
theorem check_eq_ok_iff {p : Prop} [Decidable p] {e : ε} {rest : Except ε β} {b : β} :
    (if p then throw e >>= f else rest) = .ok b ↔ ¬p ∧ rest = .ok b := by
  split
  · next hp =>
    constructor
    · rintro ⟨⟩
    · exact fun h => absurd hp h.1
  · next hp => exact ⟨fun h => ⟨hp, h⟩, fun h => h.2⟩

theorem map_eq_ok_iff {h : α → β} {b : β} : x.map h = .ok b ↔ ∃ a, x = .ok a ∧ h a = b := by
  cases x with
  | ok a =>
    constructor
    · exact fun hb => ⟨a, rfl, Except.ok.inj hb⟩
    · rintro ⟨_, ⟨⟩, rfl⟩
      rfl
  | error e =>
    constructor
    · rintro ⟨⟩
    · rintro ⟨_, ⟨⟩, _⟩

theorem mapError_eq_ok_iff {a : α} : x.mapError g = .ok a ↔ x = .ok a := by
  cases x with
  | ok b =>
    constructor
    · rintro ⟨⟩
      rfl
    · rintro ⟨⟩
      rfl
  | error e =>
    constructor
    · rintro ⟨⟩
    · rintro ⟨⟩

theorem mapError_eq_error {e : ε'} (h : x.mapError g = .error e) :
    ∃ d, x = .error d ∧ e = g d := by
  cases x with
  | ok b => cases h
  | error d =>
    cases h
    exact ⟨d, rfl, rfl⟩

/-! ## Every error -/

section Errors

variable {P : ε → Prop} {Q : ε' → Prop}

theorem errors_of_bind (hx : ∀ e, x = .error e → P e) (hf : ∀ a e, f a = .error e → P e) :
    ∀ e, x >>= f = .error e → P e := by
  intro e h
  rcases bind_eq_error h with h | ⟨a, -, h⟩
  · exact hx e h
  · exact hf a e h

theorem errors_of_mapError (hg : ∀ d, Q (g d)) : ∀ e, x.mapError g = .error e → Q e := by
  intro e h
  obtain ⟨d, -, rfl⟩ := mapError_eq_error h
  exact hg d

theorem errors_of_check {p : Prop} [Decidable p] {e : ε} {rest : Except ε β} (he : P e)
    (hrest : ∀ d, rest = .error d → P d) :
    ∀ d, (if p then throw e >>= f else rest) = .error d → P d := by
  intro d h
  split at h
  · cases h
    exact he
  · exact hrest d h

end Errors

theorem toOption_eq_some_iff {a : α} : x.toOption = some a ↔ x = .ok a := by
  cases x with
  | ok b =>
    constructor
    · rintro ⟨⟩
      rfl
    · rintro ⟨⟩
      rfl
  | error e =>
    constructor
    · rintro ⟨⟩
    · rintro ⟨⟩

end CalloutHost

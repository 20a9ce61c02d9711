/-!
Steps that may fail, joined and relabelled: what the whole comes to, read off its parts.
-/

namespace ProductionClosure.Outcome

variable {ε δ α β : Type}

theorem bind_eq_ok {first : Except ε α} {next : α → Except ε β} {result : β} :
    (first >>= next) = .ok result ↔ ∃ value, first = .ok value ∧ next value = .ok result := by
  cases first with
  | ok value =>
    constructor
    · intro h
      exact ⟨value, rfl, h⟩
    · rintro ⟨_, hvalue, h⟩
      cases hvalue
      exact h
  | error failure =>
    constructor
    · intro h
      cases h
    · rintro ⟨_, hvalue, -⟩
      cases hvalue

theorem bind_eq_error {first : Except ε α} {next : α → Except ε β} {failure : ε} :
    (first >>= next) = .error failure ↔
      first = .error failure ∨ ∃ value, first = .ok value ∧ next value = .error failure := by
  cases first with
  | ok value =>
    constructor
    · intro h
      exact Or.inr ⟨value, rfl, h⟩
    · rintro (h | ⟨_, hvalue, h⟩)
      · cases h
      · cases hvalue
        exact h
  | error other =>
    constructor
    · intro h
      cases h
      exact Or.inl rfl
    · rintro (h | ⟨_, hvalue, _⟩)
      · cases h
        rfl
      · cases hvalue

theorem mapError_eq_ok {outcome : Except ε α} {relabel : ε → δ} {value : α} :
    outcome.mapError relabel = .ok value ↔ outcome = .ok value := by
  cases outcome with
  | ok other =>
    show Except.ok other = Except.ok value ↔ _
    rw [Except.ok.injEq, Except.ok.injEq]
  | error cause =>
    constructor
    · intro h
      cases h
    · intro h
      cases h

theorem mapError_eq_error {outcome : Except ε α} {relabel : ε → δ} {failure : δ} :
    outcome.mapError relabel = .error failure ↔
      ∃ cause, outcome = .error cause ∧ relabel cause = failure := by
  cases outcome with
  | ok value =>
    constructor
    · intro h
      cases h
    · rintro ⟨_, hcause, -⟩
      cases hcause
  | error cause =>
    constructor
    · intro h
      cases h
      exact ⟨cause, rfl, rfl⟩
    · rintro ⟨_, hcause, rfl⟩
      cases hcause
      rfl

theorem map_eq_ok {outcome : Except ε α} {f : α → β} {result : β} :
    outcome.map f = .ok result ↔ ∃ value, outcome = .ok value ∧ f value = result := by
  cases outcome <;> simp [Except.map]

theorem map_eq_error {outcome : Except ε α} {f : α → β} {failure : ε} :
    outcome.map f = .error failure ↔ outcome = .error failure := by
  cases outcome <;> simp [Except.map]

end ProductionClosure.Outcome

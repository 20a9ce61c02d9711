import Mathlib.Data.List.Forall2
import ProductionClosure.Run

/-!
How a run ends, and what it starts. The events and processes of a run play no part in its end, so the
outcomes of runs that are joined are joined as outcomes; what a whole run comes to is read off its
steps by these lemmas. The processes are those of the steps in turn, as far as the run gets. Two runs
are compared step by step as well.
-/

namespace ProductionClosure.Run

variable {α β : Type}

@[simp] theorem outcome_ofExcept (outcome : Except Failure α) :
    (ofExcept outcome).outcome = outcome := rfl

@[simp] theorem outcome_report_andThen (event : Event) (next : Unit → Run β) :
    ((report event).andThen next).outcome = (next ()).outcome := rfl

@[simp] theorem outcome_start_andThen (call : Call) (next : Unit → Run β) :
    ((start call).andThen next).outcome = (next ()).outcome := rfl

@[simp] theorem outcome_done (value : α) : (done value).outcome = .ok value := rfl

@[simp] theorem outcome_fail (failure : Failure) : (fail failure : Run α).outcome = .error failure :=
  rfl

@[simp] theorem outcome_ok_andThen (value : α) (next : α → Run β) :
    ((ofExcept (.ok value)).andThen next).outcome = (next value).outcome := rfl

@[simp] theorem outcome_error_andThen (failure : Failure) (next : α → Run β) :
    ((ofExcept (.error failure)).andThen next).outcome = .error failure := rfl

theorem outcome_andThen_of_ok {run : Run α} {value : α} (h : run.outcome = .ok value)
    (next : α → Run β) : (run.andThen next).outcome = (next value).outcome := by
  simp only [andThen, h]

theorem outcome_andThen_of_error {run : Run α} {failure : Failure}
    (h : run.outcome = .error failure) (next : α → Run β) :
    (run.andThen next).outcome = .error failure := by
  simp only [andThen, h]

theorem outcome_andThen_eq_ok {run : Run α} {next : α → Run β} {result : β} :
    (run.andThen next).outcome = .ok result ↔
      ∃ value, run.outcome = .ok value ∧ (next value).outcome = .ok result := by
  cases h : run.outcome with
  | ok value => simp [outcome_andThen_of_ok h]
  | error failure => simp [outcome_andThen_of_error h]

/-- What comes behind a run matters only for the value that the run yields. -/
theorem andThen_congr {run : Run α} {next next' : α → Run β}
    (h : ∀ value, run.outcome = .ok value → next value = next' value) :
    run.andThen next = run.andThen next' := by
  cases houtcome : run.outcome with
  | ok value => simp only [andThen, houtcome, h value houtcome]
  | error failure => simp only [andThen, houtcome]

/-- A run that only makes something else of its value. -/
theorem outcome_andThen_done (run : Run α) (f : α → β) :
    (run.andThen fun value => done (f value)).outcome = run.outcome.map f := by
  cases h : run.outcome with
  | ok value => rw [outcome_andThen_of_ok h]; rfl
  | error failure => rw [outcome_andThen_of_error h]; rfl

/-! ### Failures that are borne with -/

theorem outcome_attempt_of_ok {run : Run α} {value : α} (h : run.outcome = .ok value) :
    run.attempt.outcome = .ok (.ok value) := by
  simp only [attempt, h]

theorem outcome_attempt_of_error {run : Run α} {failure : Failure}
    (h : run.outcome = .error failure) :
    run.attempt.outcome =
      if failure.isOfResolving then .ok (.error failure) else .error failure := by
  simp only [attempt, h]

theorem outcome_attempt_eq_ok_ok {run : Run α} {value : α} :
    run.attempt.outcome = .ok (.ok value) ↔ run.outcome = .ok value := by
  cases h : run.outcome with
  | ok other => simp [outcome_attempt_of_ok h]
  | error failure =>
    rw [outcome_attempt_of_error h]
    split <;> simp

theorem outcome_attempt_eq_ok_error {run : Run α} {failure : Failure} :
    run.attempt.outcome = .ok (.error failure) ↔
      run.outcome = .error failure ∧ failure.isOfResolving = true := by
  cases h : run.outcome with
  | ok value => simp [outcome_attempt_of_ok h]
  | error other =>
    rw [outcome_attempt_of_error h]
    constructor
    · intro hborne
      split at hborne
      · next hresolving =>
        cases hborne
        exact ⟨rfl, hresolving⟩
      · cases hborne
    · rintro ⟨heq, hresolving⟩
      cases heq
      rw [if_pos hresolving]

theorem outcome_attempt_eq_error {run : Run α} {failure : Failure} :
    run.attempt.outcome = .error failure ↔
      run.outcome = .error failure ∧ failure.isOfResolving = false := by
  cases h : run.outcome with
  | ok value => simp [outcome_attempt_of_ok h]
  | error other =>
    rw [outcome_attempt_of_error h]
    constructor
    · intro hpassed
      split at hpassed
      · cases hpassed
      · next hresolving =>
        cases hpassed
        exact ⟨rfl, Bool.eq_false_iff.mpr hresolving⟩
    · rintro ⟨heq, hresolving⟩
      cases heq
      rw [if_neg (Bool.eq_false_iff.mp hresolving)]

/-! ### What is started -/

@[simp] theorem calls_done (value : α) : (done value).calls = [] := rfl

@[simp] theorem calls_fail (failure : Failure) : (fail failure : Run α).calls = [] := rfl

@[simp] theorem calls_ofExcept (outcome : Except Failure α) : (ofExcept outcome).calls = [] := rfl

@[simp] theorem calls_report (event : Event) : (report event).calls = [] := rfl

@[simp] theorem calls_start (call : Call) : (start call).calls = [call] := rfl

@[simp] theorem calls_attempt (run : Run α) : run.attempt.calls = run.calls := by
  cases h : run.outcome with
  | ok value => simp only [attempt, h]
  | error failure => simp only [attempt, h]

theorem calls_andThen_of_ok {run : Run α} {value : α} (h : run.outcome = .ok value)
    (next : α → Run β) : (run.andThen next).calls = run.calls ++ (next value).calls := by
  simp only [andThen, h]

theorem calls_andThen_of_error {run : Run α} {failure : Failure} (h : run.outcome = .error failure)
    (next : α → Run β) : (run.andThen next).calls = run.calls := by
  simp only [andThen, h]

/-- Behind a step that starts nothing, what is started is what the rest starts. -/
theorem calls_andThen_of_silent {run : Run α} {value : α} (hsilent : run.calls = [])
    (h : run.outcome = .ok value) (next : α → Run β) :
    (run.andThen next).calls = (next value).calls := by
  rw [calls_andThen_of_ok h, hsilent, List.nil_append]

@[simp] theorem calls_report_andThen (event : Event) (next : Unit → Run β) :
    ((report event).andThen next).calls = (next ()).calls :=
  calls_andThen_of_silent (calls_report event) rfl next

/-- A rest that starts nothing, whatever value it gets, leaves it at what the first step starts. -/
theorem calls_andThen_of_silent_rest (run : Run α) {next : α → Run β}
    (h : ∀ value, (next value).calls = []) : (run.andThen next).calls = run.calls := by
  cases houtcome : run.outcome with
  | ok value => rw [calls_andThen_of_ok houtcome, h, List.append_nil]
  | error failure => exact calls_andThen_of_error houtcome next

/-- Steps that start nothing come to a run that starts nothing. -/
theorem calls_andThen_eq_nil {run : Run α} {next : α → Run β} (hsilent : run.calls = [])
    (h : ∀ value, (next value).calls = []) : (run.andThen next).calls = [] :=
  (calls_andThen_of_silent_rest run h).trans hsilent

theorem events_attempt (run : Run α) : run.attempt.events = run.events := by
  unfold attempt
  split <;> rfl

/-! ### Two runs side by side -/

/-- Two runs that end alike and report the same, and start related processes in the same order. -/
structure Alike (related : Call → Call → Prop) (run other : Run α) : Prop where
  outcome : run.outcome = other.outcome
  events : run.events = other.events
  calls : List.Forall₂ related run.calls other.calls

namespace Alike

variable {related : Call → Call → Prop} {run other : Run α}

/-- A run that starts nothing is like itself. -/
theorem of_silent (h : run.calls = []) : Alike related run run where
  outcome := rfl
  events := rfl
  calls := by
    rw [h]
    exact .nil

theorem start {call call' : Call} (h : related call call') :
    Alike related (Run.start call) (Run.start call') :=
  ⟨rfl, rfl, .cons h .nil⟩

/-- Runs that are alike stay so with what comes behind them for the same value. -/
theorem andThen {next next' : α → Run β} (h : Alike related run other)
    (hnext : ∀ value, Alike related (next value) (next' value)) :
    Alike related (run.andThen next) (other.andThen next') := by
  have hother := h.outcome
  cases houtcome : run.outcome with
  | error failure =>
    rw [houtcome, eq_comm] at hother
    simp only [Run.andThen, houtcome, hother]
    exact ⟨rfl, h.events, h.calls⟩
  | ok value =>
    rw [houtcome, eq_comm] at hother
    obtain ⟨hend, hevents, hcalls⟩ := hnext value
    simp only [Run.andThen, houtcome, hother, h.events, hevents]
    exact ⟨hend, rfl, List.rel_append h.calls hcalls⟩

theorem attempt (h : Alike related run other) : Alike related run.attempt other.attempt where
  outcome := by
    have hother := h.outcome
    cases houtcome : run.outcome with
    | ok value =>
      rw [houtcome, eq_comm] at hother
      rw [outcome_attempt_of_ok houtcome, outcome_attempt_of_ok hother]
    | error failure =>
      rw [houtcome, eq_comm] at hother
      rw [outcome_attempt_of_error houtcome, outcome_attempt_of_error hother]
  events := by
    rw [events_attempt, events_attempt, h.events]
  calls := by
    rw [calls_attempt, calls_attempt]
    exact h.calls

end Alike

end ProductionClosure.Run

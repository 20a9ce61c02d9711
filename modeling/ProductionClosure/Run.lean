import ProductionClosure.Event
import ProductionClosure.Failure

/-!
A run: how it ends, the events it reports, and the processes it starts, in order. Runs are joined
with `do`; what was reported and started before a failure stays in the run.
-/

namespace ProductionClosure

structure Run (α : Type) where
  outcome : Except Failure α
  events : List Event := []
  calls : List Call := []

namespace Run

variable {α β : Type}

def done (value : α) : Run α := { outcome := .ok value }

def fail (failure : Failure) : Run α := { outcome := .error failure }

def ofExcept (outcome : Except Failure α) : Run α := { outcome }

def andThen (run : Run α) (next : α → Run β) : Run β :=
  match run.outcome with
  | .error failure => { run with outcome := .error failure }
  | .ok value =>
    let rest := next value
    ⟨rest.outcome, run.events ++ rest.events, run.calls ++ rest.calls⟩

instance : Monad Run where
  pure := done
  bind := andThen

def report (event : Event) : Run Unit := { outcome := .ok (), events := [event] }

def start (call : Call) : Run Unit := { outcome := .ok (), calls := [call] }

/-- Turns a failure of resolving into a value; every other failure still ends the run. -/
def attempt (run : Run α) : Run (Except Failure α) :=
  match run.outcome with
  | .ok value => { run with outcome := .ok (.ok value) }
  | .error failure =>
    { run with outcome := if failure.isOfResolving then .ok (.error failure) else .error failure }

@[simp] theorem pure_eq (value : α) : (pure value : Run α) = done value := rfl

@[simp] theorem bind_eq (run : Run α) (next : α → Run β) : (run >>= next) = run.andThen next := rfl

@[simp] theorem andThen_done (run : Run α) : run.andThen done = run := by
  obtain ⟨outcome, events, calls⟩ := run
  cases outcome <;> simp [andThen, done]

@[simp] theorem done_andThen (value : α) (next : α → Run β) :
    (done value).andThen next = next value := by
  simp [andThen, done]

theorem andThen_andThen {γ : Type} (run : Run α) (next : α → Run β) (last : β → Run γ) :
    (run.andThen next).andThen last = run.andThen fun value => (next value).andThen last := by
  obtain ⟨outcome, events, calls⟩ := run
  cases outcome with
  | error failure => rfl
  | ok value =>
    simp only [andThen]
    cases (next value).outcome <;> simp [List.append_assoc]

end Run

end ProductionClosure

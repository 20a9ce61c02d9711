import ProductionClosure.Closure.PathSet

/-!
Iterations over a set of paths. An iteration reads the set itself and not a copy of it, so a path
that is new to the set disturbs every iteration that has not come to its end.
-/

namespace ProductionClosure.PathSet

/-- How far an iteration has come. It knows how many paths there were when it began. -/
inductive Iteration where
  | underway (size passed : Nat)
  | finished
  deriving DecidableEq, Repr

namespace Iteration

inductive Reading where
  | path (path : String)
  | ended
  | disturbed
  deriving DecidableEq, Repr

def start (paths : PathSet) : Iteration := .underway paths.size 0

/-- Reads on. Once disturbed, an iteration stays so, since a set never shrinks. -/
def next (paths : PathSet) : Iteration → Reading × Iteration
  | .finished => (.ended, .finished)
  | .underway size passed =>
    if paths.size = size then
      match paths.toList[passed]? with
      | some path => (.path path, .underway size (passed + 1))
      | none => (.ended, .finished)
    else (.disturbed, .underway size passed)

def remaining (paths : PathSet) : Iteration → Nat
  | .underway _ passed => paths.size - passed
  | .finished => 0

theorem remaining_lt_of_next {paths : PathSet} {iteration later : Iteration} {path : String}
    (h : iteration.next paths = (.path path, later)) :
    later.remaining paths < iteration.remaining paths := by
  cases iteration with
  | finished => simp [next] at h
  | underway size passed =>
    simp only [next] at h
    split at h
    · split at h
      · next hpath =>
        obtain ⟨hpassed, -⟩ := List.getElem?_eq_some_iff.mp hpath
        obtain ⟨-, rfl⟩ := Prod.mk.inj h
        exact Nat.sub_succ_lt_self paths.size passed hpassed
      · cases h
    · cases h

/-- The paths from here to the end, unless the iteration is disturbed. -/
def rest (paths : PathSet) (iteration : Iteration) : Option (List String) :=
  match _h : iteration.next paths with
  | (.path path, later) => (later.rest paths).map (path :: ·)
  | (.ended, _) => some []
  | (.disturbed, _) => none
  termination_by iteration.remaining paths
  decreasing_by exact remaining_lt_of_next _h

theorem rest_of_path {paths : PathSet} {iteration later : Iteration} {path : String}
    (h : iteration.next paths = (.path path, later)) :
    iteration.rest paths = (later.rest paths).map (path :: ·) := by
  rw [rest]
  split <;> simp_all

theorem rest_of_ended {paths : PathSet} {iteration later : Iteration}
    (h : iteration.next paths = (.ended, later)) : iteration.rest paths = some [] := by
  rw [rest]
  split <;> simp_all

end Iteration

end ProductionClosure.PathSet

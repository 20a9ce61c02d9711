import ProductionClosure.Closure.PathSet
import ProductionClosure.Failure

/-!
Looking up values of any kind in a set of paths.
-/

namespace ProductionClosure.PathSet

/-- Whether a value is one of the paths. A container cannot even be looked up. -/
def holds (paths : PathSet) (value : Json) : Except Failure Bool :=
  match value with
  | .string path => .ok (decide (path ∈ paths))
  | .array _ | .object _ => .error (.unhashable value.kindName)
  | _ => .ok false

end ProductionClosure.PathSet

import ProductionClosure.Closure.Iteration
import ProductionClosure.Closure.Lookup

/-!
What is asked of a set of paths over its life, and what it answers. Besides the requests that are
answered at once there are iterations, which are read now and then while requests go on.
-/

namespace ProductionClosure.PathSet

inductive Request where
  | add (path : String)
  | holds (value : Json)
  | size
  | list
  | iterate

inductive Answer where
  | truth (value : Bool)
  | count (number : Nat)
  | paths (items : List String)
  | failed (failure : Failure)
  | disturbed
  deriving DecidableEq, Repr

def Request.added? : Request → Option String
  | .add path => some path
  | .holds _ | .size | .list | .iterate => none

def added (history : List Request) : List String := history.filterMap Request.added?

def ask (paths : PathSet) : Request → Answer × PathSet
  | .add path =>
    let (isNew, paths) := paths.add path
    (.truth isNew, paths)
  | .holds value =>
    match paths.holds value with
    | .ok held => (.truth held, paths)
    | .error failure => (.failed failure, paths)
  | .size => (.count paths.size, paths)
  | .list => (.paths paths.toList, paths)
  | .iterate =>
    match (Iteration.start paths).rest paths with
    | some items => (.paths items, paths)
    | none => (.disturbed, paths)

def after (paths : PathSet) (history : List Request) : PathSet :=
  history.foldl (fun paths request => (paths.ask request).2) paths

def answers (paths : PathSet) : List Request → List Answer
  | [] => []
  | request :: later => (paths.ask request).1 :: (paths.ask request).2.answers later

/-- What an iteration gives, read at the end of each of some turns in which requests go on. -/
def Iteration.readings (paths : PathSet) (iteration : Iteration) :
    List (List Request) → List Iteration.Reading
  | [] => []
  | requests :: turns =>
    let paths := paths.after requests
    (iteration.next paths).1 :: (iteration.next paths).2.readings paths turns

end ProductionClosure.PathSet

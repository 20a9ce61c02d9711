import Mathlib.Logic.Function.Iterate
import ProductionClosure.Proofs.Closure.Walk

/-!
The walk round by round. Each round looks at the next package of the innermost unfinished mapping,
or takes that mapping off the stack when nothing is left of it. What is left on the whole stack
shrinks with every round, so that a bound on the rounds is known beforehand, and no round changes
what the walk comes to: the visited paths are those of the recursion on the tree, in the same order.
-/

namespace ProductionClosure

abbrev WalkState := List Forest × PathSet

/-- One round. Only a new path with something below it puts a mapping on the stack. -/
def WalkState.round : WalkState → WalkState
  | ([], visited) => ([], visited)
  | (.empty :: outer, visited) => (outer, visited)
  | (.node _ package children siblings :: outer, visited) =>
    match package.identity? with
    | none => (siblings :: outer, visited)
    | some path =>
      if path ∈ visited then (siblings :: outer, visited)
      else if children = .empty then (siblings :: outer, visited.insert path)
      else (children :: siblings :: outer, visited.insert path)

/-- What is left on a stack: each node counts twice, so that it outweighs the mapping that it puts
on the stack. -/
def remaining (stack : List Forest) : Nat := 2 * totalSize stack + stack.length

/-! ### The recursion as a pass over a mapping -/

/-- What the recursion does with one dependency. -/
def visitDependency (visited : PathSet) (package : Package) (children : Forest) : PathSet :=
  match package.storePath with
  | none => visited
  | some path =>
    if path = "" ∨ path ∈ visited then visited else children.visit (visited.insert path)

theorem Package.identity?_of_none {package : Package} (h : package.storePath = none) :
    package.identity? = none := by
  rw [identity?, h]
  rfl

theorem Package.identity?_of_empty {package : Package} (h : package.storePath = some "") :
    package.identity? = none := by
  rw [identity?, h]
  rfl

theorem Package.identity?_of_some {package : Package} {path : String}
    (h : package.storePath = some path) (hne : path ≠ "") : package.identity? = some path := by
  rw [identity?, h, Option.filter_some, if_pos (decide_eq_true hne)]

theorem Forest.visit_node (key : String) (package : Package) (children siblings : Forest)
    (visited : PathSet) :
    (Forest.node key package children siblings).visit visited =
      siblings.visit (visitDependency visited package children) := by
  cases hpath : package.storePath with
  | none => simp only [visitDependency, hpath, visit_of_pathless (Package.identity?_of_none hpath)]
  | some path =>
    simp only [visitDependency, hpath]
    by_cases hempty : path = ""
    · subst hempty
      rw [if_pos (Or.inl rfl), visit_of_pathless (Package.identity?_of_empty hpath)]
    · have hid := Package.identity?_of_some hpath hempty
      by_cases hmem : path ∈ visited
      · rw [if_pos (Or.inr hmem), visit_of_mem hid hmem]
      · rw [if_neg (not_or.mpr ⟨hempty, hmem⟩), visit_of_new hid hmem]

/-- The recursion goes through the dependencies of a mapping in their order. -/
theorem Forest.visit_eq_foldl (forest : Forest) (visited : PathSet) :
    forest.visit visited =
      forest.toList.foldl (fun seen node => visitDependency seen node.2.1 node.2.2) visited := by
  induction forest generalizing visited with
  | empty => rfl
  | node key package children siblings _ ih => rw [visit_node, ih, toList, List.foldl_cons]

/-! ### Rounds -/

/-- What the walk comes to: the mappings on the stack are visited one after the other. -/
def WalkState.result (state : WalkState) : PathSet :=
  state.1.foldl (fun seen forest => forest.visit seen) state.2

/-- As long as the stack is not empty, less is left on it after a round. -/
theorem remaining_round_lt {state : WalkState} (h : state.1 ≠ []) :
    remaining state.round.1 < remaining state.1 := by
  obtain ⟨stack, visited⟩ := state
  cases stack with
  | nil => exact absurd rfl h
  | cons top outer =>
    cases top with
    | empty => simp [WalkState.round, remaining, totalSize, Forest.size]
    | node key package children siblings =>
      have hbehind : remaining (siblings :: outer) <
          remaining (.node key package children siblings :: outer) := by
        simp only [remaining, totalSize, Forest.size, List.length_cons]
        omega
      have hbelow : remaining (children :: siblings :: outer) <
          remaining (.node key package children siblings :: outer) := by
        simp only [remaining, totalSize, Forest.size, List.length_cons]
        omega
      simp only [WalkState.round]
      cases package.identity? with
      | none => exact hbehind
      | some path =>
        by_cases hmem : path ∈ visited
        · simpa only [if_pos hmem] using hbehind
        · by_cases hleaf : children = .empty
          · simpa only [if_neg hmem, if_pos hleaf] using hbehind
          · simpa only [if_neg hmem, if_neg hleaf] using hbelow

/-- A round leaves what the walk comes to. -/
theorem WalkState.result_round (state : WalkState) : state.round.result = state.result := by
  obtain ⟨stack, visited⟩ := state
  cases stack with
  | nil => rfl
  | cons top outer =>
    cases top with
    | empty => rfl
    | node key package children siblings =>
      simp only [result, round]
      cases hid : package.identity? with
      | none => simp only [List.foldl_cons, Forest.visit_of_pathless hid]
      | some path =>
        by_cases hmem : path ∈ visited
        · simp only [if_pos hmem, List.foldl_cons, Forest.visit_of_mem hid hmem]
        · by_cases hleaf : children = .empty
          · subst hleaf
            simp only [if_neg hmem, if_true, List.foldl_cons, Forest.visit_of_new hid hmem]
            rfl
          · simp only [if_neg hmem, if_neg hleaf, List.foldl_cons, Forest.visit_of_new hid hmem]

/-- After as many rounds as are left on it the stack is empty, and more rounds change nothing. -/
theorem iterate_round {rounds : Nat} {state : WalkState} (h : remaining state.1 ≤ rounds) :
    WalkState.round^[rounds] state = ([], state.result) := by
  induction rounds generalizing state with
  | zero =>
    obtain ⟨stack, visited⟩ := state
    cases stack with
    | nil => rfl
    | cons top outer =>
      simp only [remaining, List.length_cons] at h
      omega
  | succ rounds ih =>
    rw [Function.iterate_succ_apply, ← state.result_round]
    refine ih ?_
    by_cases hstack : state.1 = []
    · obtain ⟨stack, visited⟩ := state
      obtain rfl : stack = [] := hstack
      exact Nat.zero_le rounds
    · have hless := remaining_round_lt hstack
      omega

/-! ### The stack and the tree -/

/-- Walking a mapping with a stack ends, within twice as many rounds as it has nodes and one more,
and visits what the recursion visits, in its order: each dependency in turn, and what is below a new
path before the next dependency. The closure is this recursion over all entries. -/
theorem walk_eq_recursion :
    (∀ (dependencies : Forest) (visited : PathSet),
      walk [dependencies] visited = dependencies.visit visited ∧
        ∀ more, WalkState.round^[2 * dependencies.size + 1 + more] ([dependencies], visited) =
          ([], dependencies.visit visited)) ∧
    (∀ (dependencies : Forest) (visited : PathSet),
      dependencies.visit visited =
        dependencies.toList.foldl (fun seen node => visitDependency seen node.2.1 node.2.2)
          visited) ∧
    ∀ entries : List WorkspaceEntry,
      closure entries =
        entries.foldl (fun visited entry => entry.dependencies.visit visited) ∅ := by
  refine ⟨?_, Forest.visit_eq_foldl, closure_eq_visitAll⟩
  intro dependencies visited
  refine ⟨walk_eq_foldl_visit [dependencies] visited, ?_⟩
  intro more
  refine iterate_round ?_
  simp only [remaining, totalSize, List.length_singleton]
  omega

end ProductionClosure

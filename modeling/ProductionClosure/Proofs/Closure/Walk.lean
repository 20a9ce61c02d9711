import ProductionClosure.Closure.Walk

/-!
The walk that keeps unfinished mappings on a stack visits what the recursion on the tree visits, in
the same order. The recursion is the form in which everything else is shown: it only ever adds
paths, it reaches every package of the mapping it starts with, and what it adds stands in the tree.
-/

namespace ProductionClosure

def Forest.directPaths : Forest → List String
  | .empty => []
  | .node _ package _ siblings => package.identity?.toList ++ siblings.directPaths

theorem Forest.directPaths_of_identity {package : Package} {path : String}
    (h : package.identity? = some path) (key : String) (children siblings : Forest) :
    (Forest.node key package children siblings).directPaths = path :: siblings.directPaths := by
  simp only [directPaths, h, Option.toList_some, List.singleton_append]

theorem Forest.directPaths_of_pathless {package : Package} (h : package.identity? = none)
    (key : String) (children siblings : Forest) :
    (Forest.node key package children siblings).directPaths = siblings.directPaths := by
  simp only [directPaths, h, Option.toList_none, List.nil_append]

/-! ### One node of the recursion -/

section Visit

variable {visited : PathSet} {package : Package} {path : String}

theorem Forest.visit_of_pathless (h : package.identity? = none) (key : String)
    (children siblings : Forest) :
    (Forest.node key package children siblings).visit visited = siblings.visit visited := by
  simp only [visit, h]

theorem Forest.visit_of_mem (h : package.identity? = some path) (hmem : path ∈ visited)
    (key : String) (children siblings : Forest) :
    (Forest.node key package children siblings).visit visited = siblings.visit visited := by
  simp only [visit, h, hmem, if_true]

theorem Forest.visit_of_new (h : package.identity? = some path) (hnew : path ∉ visited)
    (key : String) (children siblings : Forest) :
    (Forest.node key package children siblings).visit visited =
      siblings.visit (children.visit (visited.insert path)) := by
  simp only [visit, h, hnew, if_false]

end Visit

/-! ### The stack and the recursion -/

/-- The mappings on the stack are visited one after the other, the innermost one first. -/
theorem walk_eq_foldl_visit (stack : List Forest) (visited : PathSet) :
    walk stack visited = stack.foldl (fun seen forest => forest.visit seen) visited := by
  fun_induction walk stack visited with
  | case1 visited => rfl
  | case2 visited outer ih =>
    rw [ih]
    rfl
  | case3 visited key package children siblings outer hnone ih =>
    rw [ih, List.foldl_cons, List.foldl_cons, Forest.visit_of_pathless hnone]
  | case4 visited key package children siblings outer path hpath visited' hadd ih =>
    obtain ⟨hnew, rfl⟩ : path ∉ visited ∧ visited.insert path = visited' := by
      simpa [PathSet.add] using hadd
    rw [ih, List.foldl_cons, List.foldl_cons, List.foldl_cons, Forest.visit_of_new hpath hnew]
  | case5 visited key package children siblings outer path hpath visited' hadd ih =>
    obtain ⟨hmem, -⟩ : path ∈ visited ∧ visited.insert path = visited' := by
      simpa [PathSet.add] using hadd
    rw [ih, List.foldl_cons, List.foldl_cons, Forest.visit_of_mem hpath hmem]

def visitAll (entries : List WorkspaceEntry) (visited : PathSet) : PathSet :=
  entries.foldl (fun seen entry => entry.dependencies.visit seen) visited

theorem visitAll_cons (entry : WorkspaceEntry) (entries : List WorkspaceEntry)
    (visited : PathSet) :
    visitAll (entry :: entries) visited =
      visitAll entries (entry.dependencies.visit visited) := rfl

theorem closure_eq_visitAll (entries : List WorkspaceEntry) :
    closure entries = visitAll entries ∅ := by
  unfold closure visitAll
  congr 1
  funext visited entry
  rw [walk_eq_foldl_visit]
  rfl

/-! ### What the recursion keeps and adds -/

theorem Forest.mem_visit_of_mem {visited : PathSet} {path : String} (forest : Forest)
    (h : path ∈ visited) : path ∈ forest.visit visited := by
  induction forest generalizing visited with
  | empty => exact h
  | node key package children siblings ihChildren ihSiblings =>
    cases hid : package.identity? with
    | none =>
      rw [visit_of_pathless hid]
      exact ihSiblings h
    | some own =>
      by_cases hmem : own ∈ visited
      · rw [visit_of_mem hid hmem]
        exact ihSiblings h
      · rw [visit_of_new hid hmem]
        exact ihSiblings (ihChildren (PathSet.mem_insert.mpr (Or.inl h)))

theorem Forest.mem_visit_of_direct {visited : PathSet} {path : String} {forest : Forest}
    (h : path ∈ forest.directPaths) : path ∈ forest.visit visited := by
  induction forest generalizing visited with
  | empty => exact absurd h List.not_mem_nil
  | node key package children siblings _ ih =>
    cases hid : package.identity? with
    | none =>
      rw [directPaths_of_pathless hid] at h
      rw [visit_of_pathless hid]
      exact ih h
    | some own =>
      rw [directPaths_of_identity hid] at h
      by_cases hmem : own ∈ visited
      · rw [visit_of_mem hid hmem]
        rcases List.mem_cons.mp h with rfl | h
        · exact siblings.mem_visit_of_mem hmem
        · exact ih h
      · rw [visit_of_new hid hmem]
        rcases List.mem_cons.mp h with rfl | h
        · have hown : path ∈ visited.insert path := PathSet.mem_insert.mpr (Or.inr rfl)
          exact siblings.mem_visit_of_mem (children.mem_visit_of_mem hown)
        · exact ih h

theorem mem_visitAll_of_mem {visited : PathSet} {path : String} (entries : List WorkspaceEntry)
    (h : path ∈ visited) : path ∈ visitAll entries visited := by
  induction entries generalizing visited with
  | nil => exact h
  | cons entry rest ih =>
    rw [visitAll_cons]
    exact ih (entry.dependencies.mem_visit_of_mem h)

end ProductionClosure

import ProductionClosure.Closure.PathSet
import ProductionClosure.Dependency.Basic

/-!
The closure of a dependency tree: the store paths that a depth-first walk meets, in order. A package
that has no store path is passed over with everything below it, and what is below a store path is
walked at its first occurrence only. The walk keeps the unfinished mappings on a stack, so that its
memory grows with the depth of the tree and not with calls.
-/

namespace ProductionClosure

def Package.identity? (package : Package) : Option String :=
  package.storePath.filter (· ≠ "")

def totalSize : List Forest → Nat
  | [] => 0
  | forest :: outer => forest.size + totalSize outer

/-- Walks the mappings on a stack, the innermost one on top. -/
def walk (stack : List Forest) (visited : PathSet) : PathSet :=
  match stack with
  | [] => visited
  | .empty :: outer => walk outer visited
  | .node _ package children siblings :: outer =>
    match package.identity? with
    | none => walk (siblings :: outer) visited
    | some path =>
      match visited.add path with
      | (true, visited) => walk (children :: siblings :: outer) visited
      | (false, _) => walk (siblings :: outer) visited
  termination_by (totalSize stack, stack.length)
  decreasing_by
    all_goals simp only [totalSize, Forest.size, List.length_cons]
    · refine Prod.Lex.right' _ (by omega) (by omega)
    all_goals exact Prod.Lex.left _ _ (by omega)

/-- The distinct store paths below some entries, all sharing one set of visited paths. -/
def closure (entries : List WorkspaceEntry) : PathSet :=
  entries.foldl (fun visited entry => walk [entry.dependencies] visited) ∅

/-- The same walk as a recursion on the tree: a mapping's first package, what is below it, and then
the rest of the mapping. -/
def Forest.visit (visited : PathSet) : Forest → PathSet
  | .empty => visited
  | .node _ package children siblings =>
    match package.identity? with
    | none => siblings.visit visited
    | some path =>
      if path ∈ visited then siblings.visit visited
      else siblings.visit (children.visit (visited.insert path))

def Forest.listing : Forest → List String
  | .empty => []
  | .node _ package children siblings =>
    match package.identity? with
    | none => siblings.listing
    | some path => path :: (children.listing ++ siblings.listing)

end ProductionClosure

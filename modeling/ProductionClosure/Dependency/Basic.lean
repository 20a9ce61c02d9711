/-!
The dependency tree of a workspace. A mapping from keys to packages is kept as a forest in mapping
order: each of its nodes has the forest of its own dependencies below it and the rest of the mapping
behind it, so that one induction covers both.
-/

namespace ProductionClosure

/-- One occurrence of a package. The store path is the identity of what is installed. -/
structure Package where
  name : String
  version : String
  storePath : Option String
  deriving DecidableEq, Repr, Inhabited

inductive Forest where
  | empty
  | node (key : String) (package : Package) (children siblings : Forest)
  deriving DecidableEq, Repr, Inhabited

namespace Forest

def size : Forest → Nat
  | .empty => 0
  | .node _ _ children siblings => children.size + siblings.size + 1

def ofList : List (String × Package × Forest) → Forest
  | [] => .empty
  | (key, package, children) :: rest => .node key package children (ofList rest)

def toList : Forest → List (String × Package × Forest)
  | .empty => []
  | .node key package children siblings => (key, package, children) :: siblings.toList

def preorder (depth : Nat) : Forest → List (Nat × String × Package)
  | .empty => []
  | .node key package children siblings =>
    (depth, key, package) :: (children.preorder (depth + 1) ++ siblings.preorder depth)

@[simp] theorem toList_ofList (nodes : List (String × Package × Forest)) :
    (ofList nodes).toList = nodes := by
  induction nodes with
  | nil => rfl
  | cons node rest ih => simp [ofList, toList, ih]

@[simp] theorem ofList_toList (forest : Forest) : ofList forest.toList = forest := by
  induction forest with
  | empty => rfl
  | node key package children siblings _ ih => simp [toList, ofList, ih]

end Forest

structure WorkspaceEntry where
  name : String
  version : String
  path : String
  isPrivate : Bool
  dependencies : Forest
  deriving DecidableEq, Repr, Inhabited

end ProductionClosure

/-!
Sets of store paths that remember the order in which their members came.
-/

namespace ProductionClosure

structure PathSet where
  toList : List String
  nodup : toList.Nodup

namespace PathSet

def empty : PathSet := ⟨[], List.nodup_nil⟩

instance : EmptyCollection PathSet := ⟨empty⟩

instance : Membership String PathSet := ⟨fun paths path => path ∈ paths.toList⟩

instance (path : String) (paths : PathSet) : Decidable (path ∈ paths) :=
  inferInstanceAs (Decidable (path ∈ paths.toList))

def size (paths : PathSet) : Nat := paths.toList.length

def insert (paths : PathSet) (path : String) : PathSet :=
  if h : path ∈ paths then paths
  else
    ⟨paths.toList ++ [path], List.nodup_append.mpr ⟨paths.nodup, by simp, by
      intro a ha b hb
      simp only [List.mem_singleton] at hb
      subst hb
      exact fun e => h (e ▸ ha)⟩⟩

def add (paths : PathSet) (path : String) : Bool × PathSet :=
  (decide (path ∉ paths), paths.insert path)

/-- The members of a list in the order of their first mention. -/
def ofList (items : List String) : PathSet := items.foldl insert ∅

@[ext] theorem ext {a b : PathSet} (h : a.toList = b.toList) : a = b := by
  cases a
  cases b
  simp_all

@[simp] theorem mem_toList {path : String} {paths : PathSet} :
    path ∈ paths.toList ↔ path ∈ paths := Iff.rfl

@[simp] theorem toList_empty : (∅ : PathSet).toList = [] := rfl

theorem toList_insert (paths : PathSet) (path : String) :
    (paths.insert path).toList =
      if path ∈ paths then paths.toList else paths.toList ++ [path] := by
  unfold insert
  split <;> simp_all

@[simp] theorem mem_insert {paths : PathSet} {path other : String} :
    other ∈ paths.insert path ↔ other ∈ paths ∨ other = path := by
  rw [← mem_toList, toList_insert]
  split
  · next h => exact ⟨Or.inl, fun e => e.elim id fun e => e ▸ h⟩
  · simp

end PathSet

end ProductionClosure

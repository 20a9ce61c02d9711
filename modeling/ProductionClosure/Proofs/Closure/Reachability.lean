import Mathlib.Data.List.Nodup
import Mathlib.Logic.Relation
import ProductionClosure.Proofs.Closure.Walk

/-!
The closure of reported trees is reachability in the graph they were printed from. A package manager
prints a graph of packages as trees: below each occurrence of a package stand its dependencies, and
a cycle is cut where a package comes up again below itself. The walk passes over what is below a
path it has seen, so the one thing to show is that the first occurrence it meets is never a cut one.
A cut occurrence lies below another occurrence of its path, which the walk entered before it.
-/

namespace ProductionClosure

/-- A mapping that unfolds a graph of store paths, below the given ancestors. A package either has
all its successors below it, or repeats an ancestor and has nothing below it; what stands below a
package without a path is free. -/
inductive Forest.Unfolds (edge : String → String → Prop) : List String → Forest → Prop where
  | empty {ancestors : List String} : Unfolds edge ancestors .empty
  | pathless {ancestors : List String} {key : String} {package : Package}
      {children siblings : Forest} (hid : package.identity? = none)
      (hsiblings : Unfolds edge ancestors siblings) :
      Unfolds edge ancestors (.node key package children siblings)
  | expanded {ancestors : List String} {key path : String} {package : Package}
      {children siblings : Forest} (hid : package.identity? = some path)
      (hnext : ∀ next, next ∈ children.directPaths ↔ edge path next)
      (hchildren : Unfolds edge (path :: ancestors) children)
      (hsiblings : Unfolds edge ancestors siblings) :
      Unfolds edge ancestors (.node key package children siblings)
  | cut {ancestors : List String} {key path : String} {package : Package} {siblings : Forest}
      (hid : package.identity? = some path) (hancestor : path ∈ ancestors)
      (hsiblings : Unfolds edge ancestors siblings) :
      Unfolds edge ancestors (.node key package .empty siblings)

/-- Entries whose trees all unfold one graph. -/
def EntriesUnfold (edge : String → String → Prop) (entries : List WorkspaceEntry) : Prop :=
  ∀ entry ∈ entries, entry.dependencies.Unfolds edge []

def rootPaths (entries : List WorkspaceEntry) : List String :=
  entries.flatMap fun entry => entry.dependencies.directPaths

/-- Reachable, in zero or more steps, from a direct dependency. -/
def ReachableFrom (edge : String → String → Prop) (entries : List WorkspaceEntry)
    (path : String) : Prop :=
  ∃ root ∈ rootPaths entries, Relation.ReflTransGen edge root path

variable {edge : String → String → Prop}

/-! ### Every successor of a finished path is visited -/

/-- The invariant of the walk: whatever is visited and no longer being walked has all its successors
visited. What is being walked are the ancestors of the current mapping. -/
def Saturated (edge : String → String → Prop) (walked : List String) (visited : PathSet) : Prop :=
  ∀ path ∈ visited, path ∉ walked → ∀ next, edge path next → next ∈ visited

theorem saturated_empty (walked : List String) : Saturated edge walked ∅ := by
  intro path hpath
  exact absurd hpath List.not_mem_nil

/-- Entering a package keeps the invariant, with the package among those being walked. -/
theorem Saturated.enter {walked : List String} {visited : PathSet}
    (h : Saturated edge walked visited) (path : String) :
    Saturated edge (path :: walked) (visited.insert path) := by
  intro other hother hnot next hedge
  rw [List.mem_cons, not_or] at hnot
  obtain ⟨hne, hwalked⟩ := hnot
  have hmem : other ∈ visited := (PathSet.mem_insert.mp hother).resolve_right hne
  exact PathSet.mem_insert.mpr (Or.inl (h other hmem hwalked next hedge))

/-- Leaving a package whose successors are all visited keeps the invariant. -/
theorem Saturated.leave {walked : List String} {visited : PathSet} {path : String}
    (h : Saturated edge (path :: walked) visited)
    (hnext : ∀ next, edge path next → next ∈ visited) : Saturated edge walked visited := by
  intro other hother hwalked next hedge
  by_cases heq : other = path
  · subst heq
    exact hnext next hedge
  · refine h other hother ?_ next hedge
    rw [List.mem_cons, not_or]
    exact ⟨heq, hwalked⟩

/-- The step over one mapping: the ancestors are visited before anything below them, so a cut
occurrence is met only after the occurrence that it repeats. -/
theorem Forest.Unfolds.saturated_visit {ancestors : List String} {forest : Forest}
    (hforest : forest.Unfolds edge ancestors) {visited : PathSet}
    (hancestors : ∀ path ∈ ancestors, path ∈ visited)
    (hvisited : Saturated edge ancestors visited) :
    Saturated edge ancestors (forest.visit visited) := by
  induction hforest generalizing visited with
  | empty => exact hvisited
  | pathless hid _ ih =>
    rw [Forest.visit_of_pathless hid]
    exact ih hancestors hvisited
  | @expanded ancestors key path package children siblings hid hnext _ _ ihChildren ihSiblings =>
    by_cases hmem : path ∈ visited
    · rw [Forest.visit_of_mem hid hmem]
      exact ihSiblings hancestors hvisited
    · rw [Forest.visit_of_new hid hmem]
      have hbelow : ∀ other ∈ path :: ancestors, other ∈ visited.insert path := by
        intro other hother
        rcases List.mem_cons.mp hother with rfl | hother
        · exact PathSet.mem_insert.mpr (Or.inr rfl)
        · exact PathSet.mem_insert.mpr (Or.inl (hancestors other hother))
      -- the successors are the children's own paths, and those the walk has just visited
      have hinner := ihChildren hbelow (hvisited.enter path)
      have hleft : Saturated edge ancestors (children.visit (visited.insert path)) :=
        hinner.leave fun next hedge => Forest.mem_visit_of_direct ((hnext next).mpr hedge)
      refine ihSiblings ?_ hleft
      intro other hother
      exact children.mem_visit_of_mem (hbelow other (List.mem_cons_of_mem _ hother))
  | cut hid hancestor _ ih =>
    rw [Forest.visit_of_mem hid (hancestors _ hancestor)]
    exact ih hancestors hvisited

/-! ### Every visited path is reachable -/

/-- A mapping in which packages stand below a path only as its successors. -/
def Forest.Within (edge : String → String → Prop) : Forest → Prop
  | .empty => True
  | .node _ package children siblings =>
    (∀ path, package.identity? = some path →
      (∀ next ∈ children.directPaths, edge path next) ∧ children.Within edge) ∧
    siblings.Within edge

theorem Forest.Unfolds.within {ancestors : List String} {forest : Forest}
    (h : forest.Unfolds edge ancestors) : forest.Within edge := by
  induction h with
  | empty => exact trivial
  | pathless hid _ ih =>
    refine ⟨?_, ih⟩
    intro path hpath
    rw [hid] at hpath
    exact absurd hpath nofun
  | expanded hid hnext _ _ ihChildren ihSiblings =>
    refine ⟨?_, ihSiblings⟩
    intro path hpath
    obtain rfl := Option.some.inj (hid.symm.trans hpath)
    exact ⟨fun next => (hnext next).mp, ihChildren⟩
  | cut hid _ _ ih =>
    refine ⟨?_, ih⟩
    intro path _
    exact ⟨fun next hnext => absurd hnext List.not_mem_nil, trivial⟩

theorem Forest.Within.reachable_of_mem_visit {forest : Forest} (h : forest.Within edge)
    {visited : PathSet} {path : String} (hpath : path ∈ forest.visit visited) :
    path ∈ visited ∨ ∃ root ∈ forest.directPaths, Relation.ReflTransGen edge root path := by
  induction forest generalizing visited with
  | empty => exact Or.inl hpath
  | node key package children siblings ihChildren ihSiblings =>
    obtain ⟨hown, hsiblings⟩ := h
    cases hid : package.identity? with
    | none =>
      rw [Forest.visit_of_pathless hid] at hpath
      rw [Forest.directPaths_of_pathless hid]
      exact ihSiblings hsiblings hpath
    | some own =>
      obtain ⟨hnext, hchildren⟩ := hown own hid
      rw [Forest.directPaths_of_identity hid]
      have hlater : ∀ {seen : PathSet}, path ∈ siblings.visit seen → path ∈ seen ∨
          ∃ root ∈ own :: siblings.directPaths, Relation.ReflTransGen edge root path := by
        intro seen hseen
        refine (ihSiblings hsiblings hseen).imp_right ?_
        rintro ⟨root, hroot, hreach⟩
        exact ⟨root, List.mem_cons_of_mem _ hroot, hreach⟩
      by_cases hmem : own ∈ visited
      · rw [Forest.visit_of_mem hid hmem] at hpath
        exact hlater hpath
      · rw [Forest.visit_of_new hid hmem] at hpath
        rcases hlater hpath with hbelow | hroot
        · rcases ihChildren hchildren hbelow with hinsert | ⟨root, hroot, hreach⟩
          · rcases PathSet.mem_insert.mp hinsert with hold | rfl
            · exact Or.inl hold
            · exact Or.inr ⟨path, List.mem_cons_self, .refl⟩
          · exact Or.inr ⟨own, List.mem_cons_self, .head (hnext root hroot) hreach⟩
        · exact Or.inr hroot

/-! ### Whole reports -/

theorem mem_rootPaths {entries : List WorkspaceEntry} {path : String} :
    path ∈ rootPaths entries ↔ ∃ entry ∈ entries, path ∈ entry.dependencies.directPaths := by
  rw [rootPaths, List.mem_flatMap]

theorem mem_visitAll_of_root {visited : PathSet} {path : String} {entries : List WorkspaceEntry}
    (h : path ∈ rootPaths entries) : path ∈ visitAll entries visited := by
  induction entries generalizing visited with
  | nil => exact absurd h List.not_mem_nil
  | cons entry rest ih =>
    rw [rootPaths, List.flatMap_cons, List.mem_append] at h
    rcases h with hdirect | hrest
    · exact mem_visitAll_of_mem rest (Forest.mem_visit_of_direct hdirect)
    · exact ih hrest

theorem EntriesUnfold.saturated_visitAll {entries : List WorkspaceEntry}
    (h : EntriesUnfold edge entries) {visited : PathSet} (hvisited : Saturated edge [] visited) :
    Saturated edge [] (visitAll entries visited) := by
  induction entries generalizing visited with
  | nil => exact hvisited
  | cons entry rest ih =>
    rw [EntriesUnfold, List.forall_mem_cons] at h
    have hempty : ∀ path ∈ ([] : List String), path ∈ visited := by
      intro path hpath
      exact absurd hpath List.not_mem_nil
    exact ih h.2 (h.1.saturated_visit hempty hvisited)

theorem EntriesUnfold.reachable_of_mem_visitAll {entries : List WorkspaceEntry}
    (h : EntriesUnfold edge entries) {visited : PathSet} {path : String}
    (hpath : path ∈ visitAll entries visited) :
    path ∈ visited ∨ ReachableFrom edge entries path := by
  induction entries generalizing visited with
  | nil => exact Or.inl hpath
  | cons entry rest ih =>
    rw [EntriesUnfold, List.forall_mem_cons] at h
    rcases ih h.2 hpath with hentry | ⟨root, hroot, hreach⟩
    · refine (h.1.within.reachable_of_mem_visit hentry).imp_right ?_
      rintro ⟨root, hroot, hreach⟩
      exact ⟨root, mem_rootPaths.mpr ⟨entry, List.mem_cons_self, hroot⟩, hreach⟩
    · obtain ⟨other, hother, hdirect⟩ := mem_rootPaths.mp hroot
      exact Or.inr ⟨root, mem_rootPaths.mpr ⟨other, List.mem_cons_of_mem _ hother, hdirect⟩, hreach⟩

/-- A set that holds the roots and has no unfinished path holds everything reachable. -/
theorem Saturated.mem_of_reachable {visited : PathSet} (h : Saturated edge [] visited)
    {entries : List WorkspaceEntry} (hroots : ∀ root ∈ rootPaths entries, root ∈ visited)
    {path : String} (hpath : ReachableFrom edge entries path) : path ∈ visited := by
  obtain ⟨root, hroot, hreach⟩ := hpath
  induction hreach with
  | refl => exact hroots root hroot
  | tail _ hedge ih => exact h _ ih List.not_mem_nil _ hedge

theorem EntriesUnfold.mem_closure_iff {entries : List WorkspaceEntry}
    (h : EntriesUnfold edge entries) (path : String) :
    path ∈ closure entries ↔ ReachableFrom edge entries path := by
  rw [closure_eq_visitAll]
  constructor
  · intro hpath
    exact (h.reachable_of_mem_visitAll hpath).resolve_left List.not_mem_nil
  · intro hreach
    have hsaturated := h.saturated_visitAll (saturated_empty [])
    exact hsaturated.mem_of_reachable (fun root hroot => mem_visitAll_of_root hroot) hreach

/-- The closure lists exactly the paths reachable from the direct dependencies, each once. Which
trees the graph was printed as does not matter: other entries that unfold the same graph from the
same roots, in whatever order and with whatever cuts, have a permutation of the same list. -/
theorem closure_eq_reachable {entries : List WorkspaceEntry}
    (h : EntriesUnfold edge entries) :
    (∀ path, ReachableFrom edge entries path → (closure entries).toList.count path = 1) ∧
    (∀ path, path ∈ (closure entries).toList → ReachableFrom edge entries path) ∧
    ∀ others, EntriesUnfold edge others →
      (∀ root, root ∈ rootPaths others ↔ root ∈ rootPaths entries) →
      (closure others).toList.Perm (closure entries).toList := by
  refine ⟨?_, ?_, ?_⟩
  · intro path hreach
    exact List.count_eq_one_of_mem (closure entries).nodup ((h.mem_closure_iff path).mpr hreach)
  · intro path hpath
    exact (h.mem_closure_iff path).mp hpath
  · intro others hothers hroots
    rw [List.perm_ext_iff_of_nodup (closure others).nodup (closure entries).nodup]
    intro path
    rw [PathSet.mem_toList, PathSet.mem_toList, hothers.mem_closure_iff, h.mem_closure_iff]
    simp only [ReachableFrom, hroots]

def Mutual (package other : String) : Prop :=
  (package = "/a" ∧ other = "/b") ∨ (package = "/b" ∧ other = "/a")

/-- Mutual dependencies as they are printed: the first package comes up again below the second one,
and is cut there. -/
def mutualEntry : WorkspaceEntry where
  name := "app"
  version := ""
  path := ""
  isPrivate := false
  dependencies :=
    .node "a" ⟨"a", "", "/a"⟩
      (.node "b" ⟨"b", "", "/b"⟩ (.node "a" ⟨"a", "", "/a"⟩ .empty .empty) .empty) .empty

theorem closure_of_mutual_dependencies :
    EntriesUnfold Mutual [mutualEntry] ∧ (closure [mutualEntry]).toList.count "/b" = 1 := by
  have ha : (⟨"a", "", some "/a"⟩ : Package).identity? = some "/a" := rfl
  have hb : (⟨"b", "", some "/b"⟩ : Package).identity? = some "/b" := rfl
  have hunfold : EntriesUnfold Mutual [mutualEntry] := by
    intro entry hentry
    obtain rfl := List.mem_singleton.mp hentry
    refine .expanded ha ?_ (.expanded hb ?_ (.cut ha (by simp) .empty) .empty) .empty
    · intro next
      rw [Forest.directPaths_of_identity hb]
      simp [Forest.directPaths, Mutual]
    · intro next
      rw [Forest.directPaths_of_identity ha]
      simp [Forest.directPaths, Mutual]
  have hroot : "/a" ∈ rootPaths [mutualEntry] := by
    simp [rootPaths, mutualEntry, Forest.directPaths, Package.identity?]
  have hreach : ReachableFrom Mutual [mutualEntry] "/b" :=
    ⟨"/a", hroot, .single (Or.inl ⟨rfl, rfl⟩)⟩
  exact ⟨hunfold, (closure_eq_reachable hunfold).1 "/b" hreach⟩

end ProductionClosure

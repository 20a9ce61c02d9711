import ProductionClosure.Proofs.Closure.FirstMention
import ProductionClosure.Proofs.Closure.Walk

/-!
What passing over seen paths leaves out. The walk enters a store path once and skips what is below
its other occurrences. Where all occurrences of a path have the same below them, nothing is lost by
this: the walk yields the complete pre-order listing of the trees with its repetitions taken out.

The invariant is that whatever is below a visited path has been visited too, as soon as it is
smaller than the mapping being walked. A path that is still being walked is exempt by its size, so
the ancestors need not be named: an occurrence of an ancestor's path inside the mapping would have
to be as large as the ancestor.
-/

namespace ProductionClosure

/-- A mapping reduced to its store paths. Packages without a path are gone, with everything below
them. -/
inductive Outline where
  | empty
  | node (path : String) (below behind : Outline)
  deriving DecidableEq, Repr

namespace Outline

def size : Outline → Nat
  | .empty => 0
  | .node _ below behind => below.size + behind.size + 1

/-- The paths in pre-order, each with what is below it. -/
def occurrences : Outline → List (String × Outline)
  | .empty => []
  | .node path below behind => (path, below) :: (below.occurrences ++ behind.occurrences)

def paths (outline : Outline) : List String := outline.occurrences.map Prod.fst

@[simp] theorem paths_empty : empty.paths = [] := rfl

@[simp] theorem paths_node (path : String) (below behind : Outline) :
    (node path below behind).paths = path :: (below.paths ++ behind.paths) := by
  simp [paths, occurrences]

theorem mem_paths {outline : Outline} {path : String} :
    path ∈ outline.paths ↔ ∃ below, (path, below) ∈ outline.occurrences := by
  simp [paths]

theorem occurrences_subset_of_mem {outline below : Outline} {path : String}
    (h : (path, below) ∈ outline.occurrences) :
    below.occurrences ⊆ outline.occurrences := by
  induction outline with
  | empty => simp [occurrences] at h
  | node own inner behind ihInner ihBehind =>
    intro occurrence hoccurrence
    simp only [occurrences, List.mem_cons, List.mem_append, Prod.mk.injEq] at h ⊢
    rcases h with ⟨-, rfl⟩ | hinner | hbehind
    · exact Or.inr (Or.inl hoccurrence)
    · exact Or.inr (Or.inl (ihInner hinner hoccurrence))
    · exact Or.inr (Or.inr (ihBehind hbehind hoccurrence))

theorem paths_subset_of_mem {outline below : Outline} {path : String}
    (h : (path, below) ∈ outline.occurrences) : below.paths ⊆ outline.paths :=
  List.map_subset Prod.fst (occurrences_subset_of_mem h)

end Outline

def Forest.outline : Forest → Outline
  | .empty => .empty
  | .node _ package children siblings =>
    match package.identity? with
    | none => siblings.outline
    | some path => .node path children.outline siblings.outline

section

variable {package : Package} {path : String}

theorem Forest.outline_of_pathless (h : package.identity? = none) (key : String)
    (children siblings : Forest) :
    (Forest.node key package children siblings).outline = siblings.outline := by
  simp only [outline, h]

theorem Forest.outline_of_identity (h : package.identity? = some path) (key : String)
    (children siblings : Forest) :
    (Forest.node key package children siblings).outline =
      .node path children.outline siblings.outline := by
  simp only [outline, h]

theorem Forest.listing_eq_paths (forest : Forest) : forest.listing = forest.outline.paths := by
  induction forest with
  | empty => rfl
  | node key package children siblings ihChildren ihSiblings =>
    cases hid : package.identity? with
    | none => simp only [listing, outline, hid, ihSiblings]
    | some path =>
      simp only [listing, outline, hid, ihChildren, ihSiblings, Outline.paths_node]

end

/-- Any two occurrences of a path have the same below them. -/
def Consistent (occurrences : List (String × Outline)) : Prop :=
  ∀ one ∈ occurrences, ∀ other ∈ occurrences, one.1 = other.1 → one.2 = other.2

instance (occurrences : List (String × Outline)) : Decidable (Consistent occurrences) :=
  inferInstanceAs (Decidable (∀ one ∈ occurrences, ∀ other ∈ occurrences,
    one.1 = other.1 → one.2 = other.2))

def occurrencesIn (entries : List WorkspaceEntry) : List (String × Outline) :=
  entries.flatMap fun entry => entry.dependencies.outline.occurrences

def listingOf (entries : List WorkspaceEntry) : List String :=
  entries.flatMap fun entry => entry.dependencies.listing

/-! ### Adding a whole list -/

namespace PathSet

def insertAll (paths : PathSet) (items : List String) : PathSet := items.foldl insert paths

variable {paths : PathSet} {items : List String} {path : String}

@[simp] theorem insertAll_nil (paths : PathSet) : paths.insertAll [] = paths := rfl

@[simp] theorem insertAll_cons (paths : PathSet) (item : String) (items : List String) :
    paths.insertAll (item :: items) = (paths.insert item).insertAll items := rfl

theorem insertAll_append (paths : PathSet) (items more : List String) :
    paths.insertAll (items ++ more) = (paths.insertAll items).insertAll more :=
  List.foldl_append

theorem insert_of_mem (h : path ∈ paths) : paths.insert path = paths :=
  PathSet.ext (toList_insert_of_mem h)

theorem mem_insertAll : path ∈ paths.insertAll items ↔ path ∈ paths ∨ path ∈ items := by
  induction items generalizing paths with
  | nil => simp
  | cons item items ih => rw [insertAll_cons, ih, mem_insert, List.mem_cons, or_assoc]

theorem insertAll_of_subset (h : ∀ item ∈ items, item ∈ paths) : paths.insertAll items = paths := by
  induction items with
  | nil => rfl
  | cons item items ih =>
    rw [List.forall_mem_cons] at h
    rw [insertAll_cons, insert_of_mem h.1, ih h.2]

/-- A set of paths is made from a list by dropping all mentions but the first of each. -/
theorem toList_ofList_eq_eraseDups (items : List String) :
    (ofList items).toList = items.eraseDups := by
  induction items using List.reverseRecOn with
  | nil => rw [ofList_nil, toList_empty, List.eraseDups_nil]
  | append_singleton items item ih =>
    rw [ofList_append_singleton, List.eraseDups_append]
    by_cases hmem : item ∈ items
    · have hremoved : [item].removeAll items = [] := by simp [List.removeAll, hmem]
      rw [toList_insert_of_mem (mem_ofList.mpr hmem), hremoved, List.eraseDups_nil,
        List.append_nil, ih]
    · have hkept : [item].removeAll items = [item] := by simp [List.removeAll, hmem]
      have hsingle : [item].eraseDups = [item] := by simp [List.eraseDups_cons]
      rw [toList_insert_of_new fun h => hmem (mem_ofList.mp h), hkept, hsingle, ih]

end PathSet

/-! ### The walk adds the whole listing -/

/-- Whatever is below a visited path has been visited, if it is smaller than the limit. -/
def Finished (occurrences : List (String × Outline)) (limit : Nat) (visited : PathSet) : Prop :=
  ∀ path below, (path, below) ∈ occurrences → path ∈ visited → below.size < limit →
    ∀ other ∈ below.paths, other ∈ visited

variable {occurrences : List (String × Outline)} {limit : Nat} {visited : PathSet}

theorem finished_empty (occurrences : List (String × Outline)) (limit : Nat) :
    Finished occurrences limit ∅ := by
  intro path below _ hpath
  exact absurd hpath List.not_mem_nil

theorem Finished.mono (h : Finished occurrences limit visited) {lower : Nat} (hle : lower ≤ limit) :
    Finished occurrences lower visited := by
  intro path below hoccurs hpath hsize
  exact h path below hoccurs hpath (by omega)

/-- Adding all paths of a mapping keeps the invariant: what is below them stands in the mapping. -/
theorem Finished.insertAll (h : Finished occurrences limit visited)
    (hconsistent : Consistent occurrences) {outline : Outline}
    (hsub : outline.occurrences ⊆ occurrences) :
    Finished occurrences limit (visited.insertAll outline.paths) := by
  intro path below hoccurs hpath hsize other hother
  rw [PathSet.mem_insertAll] at hpath ⊢
  rcases hpath with hold | hnew
  · exact Or.inl (h path below hoccurs hold hsize other hother)
  · obtain ⟨found, hfound⟩ := Outline.mem_paths.mp hnew
    obtain rfl : found = below := hconsistent _ (hsub hfound) _ hoccurs rfl
    exact Or.inr (Outline.paths_subset_of_mem hfound hother)

/-- Entering a path leaves the invariant for what is below it: the path itself is too large. -/
theorem Finished.enter {path : String} {below : Outline}
    (h : Finished occurrences limit visited) (hconsistent : Consistent occurrences)
    (hoccurs : (path, below) ∈ occurrences) (hsize : below.size ≤ limit) :
    Finished occurrences below.size (visited.insert path) := by
  intro other inner hinner hother hlt found hfound
  rw [PathSet.mem_insert] at hother ⊢
  rcases hother with hold | rfl
  · exact Or.inl (h other inner hinner hold (by omega) found hfound)
  · obtain rfl : inner = below := hconsistent _ hinner _ hoccurs rfl
    omega

theorem Forest.visit_eq_insertAll {forest : Forest} (hconsistent : Consistent occurrences)
    (hsub : forest.outline.occurrences ⊆ occurrences)
    (hfinished : Finished occurrences forest.outline.size visited) :
    forest.visit visited = visited.insertAll forest.listing := by
  induction forest generalizing visited with
  | empty => rfl
  | node key package children siblings ihChildren ihSiblings =>
    cases hid : package.identity? with
    | none =>
      rw [outline_of_pathless hid] at hsub hfinished
      rw [visit_of_pathless hid, listing_eq_paths, outline_of_pathless hid, ← listing_eq_paths]
      exact ihSiblings hsub hfinished
    | some path =>
      rw [outline_of_identity hid] at hsub hfinished
      simp only [Outline.occurrences, List.cons_subset, List.append_subset] at hsub
      obtain ⟨hoccurs, hchildren, hsiblings⟩ := hsub
      have hsmaller : children.outline.size < (Outline.node path children.outline
          siblings.outline).size ∧ siblings.outline.size ≤ (Outline.node path children.outline
          siblings.outline).size := by
        simp only [Outline.size]
        omega
      rw [listing_eq_paths, outline_of_identity hid, Outline.paths_node, PathSet.insertAll_cons,
        PathSet.insertAll_append, ← listing_eq_paths, ← listing_eq_paths]
      by_cases hmem : path ∈ visited
      · -- all that is skipped has been visited
        have hbelow : ∀ other ∈ children.listing, other ∈ visited := by
          rw [listing_eq_paths]
          exact hfinished path _ hoccurs hmem hsmaller.1
        rw [visit_of_mem hid hmem, PathSet.insert_of_mem hmem, PathSet.insertAll_of_subset hbelow]
        exact ihSiblings hsiblings (hfinished.mono hsmaller.2)
      · have henter := hfinished.enter hconsistent hoccurs (by omega)
        rw [visit_of_new hid hmem, ihChildren hchildren henter]
        apply ihSiblings hsiblings
        -- the path and all below it are in now, so that nothing is exempt any more
        have hentered : (Outline.node path children.outline .empty).occurrences ⊆ occurrences := by
          simpa [Outline.occurrences] using ⟨hoccurs, hchildren⟩
        have hleft := (hfinished.mono hsmaller.2).insertAll hconsistent hentered
        simpa [listing_eq_paths] using hleft

theorem visitAll_eq_insertAll {entries : List WorkspaceEntry}
    (hconsistent : Consistent occurrences) (hsub : occurrencesIn entries ⊆ occurrences)
    (hfinished : ∀ limit, Finished occurrences limit visited) :
    visitAll entries visited = visited.insertAll (listingOf entries) := by
  induction entries generalizing visited with
  | nil => rfl
  | cons entry rest ih =>
    rw [occurrencesIn, List.flatMap_cons, List.append_subset] at hsub
    rw [visitAll_cons, listingOf, List.flatMap_cons, PathSet.insertAll_append,
      Forest.visit_eq_insertAll hconsistent hsub.1 (hfinished _)]
    apply ih hsub.2
    intro limit
    rw [Forest.listing_eq_paths]
    exact (hfinished limit).insertAll hconsistent hsub.1

/-- Where every path has the same below it wherever it occurs, the closure is the complete listing
of the trees in pre-order with all but the first mention of each path dropped. -/
theorem closure_eq_listing {entries : List WorkspaceEntry}
    (h : Consistent (occurrencesIn entries)) :
    (closure entries).toList = (listingOf entries).eraseDups := by
  have hwalk : closure entries = PathSet.ofList (listingOf entries) := by
    rw [closure_eq_visitAll]
    exact visitAll_eq_insertAll h (List.Subset.refl _) (finished_empty _)
  rw [hwalk, PathSet.toList_ofList_eq_eraseDups]

/-- Two packages that need a third one. Once it is listed with a package of its own, and once with a
placeholder in front of that package. -/
def sharingEntry : WorkspaceEntry where
  name := "app"
  version := ""
  path := ""
  isPrivate := false
  dependencies :=
    let last := Forest.node "d" ⟨"d", "", "/d"⟩ .empty .empty
    let placeholder :=
      Forest.node "x" ⟨"x", "", none⟩ (.node "y" ⟨"y", "", "/y"⟩ .empty .empty) last
    .node "a" ⟨"a", "", "/a"⟩ (.node "c" ⟨"c", "", "/c"⟩ last .empty)
      (.node "b" ⟨"b", "", "/b"⟩ (.node "c" ⟨"c", "", "/c"⟩ placeholder .empty) .empty)

theorem closure_of_shared_dependency :
    Consistent (occurrencesIn [sharingEntry]) ∧
      (closure [sharingEntry]).toList = (listingOf [sharingEntry]).eraseDups ∧
      (listingOf [sharingEntry]).eraseDups = ["/a", "/c", "/d", "/b"] := by
  have hconsistent : Consistent (occurrencesIn [sharingEntry]) := by decide
  exact ⟨hconsistent, closure_eq_listing hconsistent, by decide⟩

end ProductionClosure

import ProductionClosure.Proofs.Closure.Listing
import ProductionClosure.Proofs.Closure.Reachability

/-!
What a closure looks like, whatever the trees are. Two occurrences of a path may have different
packages below them, and then the occurrence that the walk comes to first decides what is listed.
Even so nothing is listed without a reason: a path is that of a direct dependency, or it stands
directly below a path listed before it. Nothing is listed by halves either: one occurrence of each
listed path has all that stands directly below it listed. More entries only add behind what is
listed without them.
-/

namespace ProductionClosure

def Outline.directPaths : Outline → List String
  | .empty => []
  | .node path _ behind => path :: behind.directPaths

/-- Why a path is listed, and that it is not listed by halves. -/
structure Supported (roots : List String) (occurrences : List (String × Outline))
    (listed : List String) (path : String) : Prop where
  /-- The path is a root, or stands directly below a path that is listed before it. -/
  reason : path ∈ roots ∨ ∃ parent below, (parent, below) ∈ occurrences ∧
    path ∈ below.directPaths ∧ [parent, path].Sublist listed
  /-- At one of its occurrences, all that stands directly below it is listed. -/
  expanded : ∃ below, (path, below) ∈ occurrences ∧ ∀ next ∈ below.directPaths, next ∈ listed

theorem Supported.mono {roots roots' listed listed' : List String}
    {occurrences occurrences' : List (String × Outline)} {path : String}
    (h : Supported roots occurrences listed path) (hroots : roots ⊆ roots')
    (hoccurrences : occurrences ⊆ occurrences') (hlisted : listed.Sublist listed') :
    Supported roots' occurrences' listed' path where
  reason := by
    rcases h.reason with hroot | ⟨parent, below, hparent, hbelow, hbefore⟩
    · exact Or.inl (hroots hroot)
    · exact Or.inr ⟨parent, below, hoccurrences hparent, hbelow, hbefore.trans hlisted⟩
  expanded := by
    obtain ⟨below, hbelow, hnext⟩ := h.expanded
    exact ⟨below, hoccurrences hbelow, fun next hmem => hlisted.subset (hnext next hmem)⟩

/-! ### Paths of the outline -/

theorem Forest.directPaths_outline (forest : Forest) :
    forest.outline.directPaths = forest.directPaths := by
  induction forest with
  | empty => rfl
  | node key package children siblings _ ih =>
    cases hid : package.identity? with
    | none => rw [outline_of_pathless hid, directPaths_of_pathless hid, ih]
    | some path =>
      rw [outline_of_identity hid, directPaths_of_identity hid, Outline.directPaths, ih]

theorem Package.ne_empty_of_identity? {package : Package} {path : String}
    (h : package.identity? = some path) : path ≠ "" :=
  of_decide_eq_true (Option.filter_eq_some_iff.mp h).2

theorem Forest.ne_empty_of_mem_occurrences {forest : Forest} {path : String} {below : Outline}
    (h : (path, below) ∈ forest.outline.occurrences) : path ≠ "" := by
  induction forest with
  | empty => exact absurd h List.not_mem_nil
  | node key package children siblings ihChildren ihSiblings =>
    cases hid : package.identity? with
    | none =>
      rw [outline_of_pathless hid] at h
      exact ihSiblings h
    | some own =>
      rw [outline_of_identity hid, Outline.occurrences, List.mem_cons, List.mem_append] at h
      rcases h with hown | hchildren | hsiblings
      · rw [(Prod.mk.inj hown).1]
        exact package.ne_empty_of_identity? hid
      · exact ihChildren hchildren
      · exact ihSiblings hsiblings

/-! ### The walk only adds at the end -/

theorem PathSet.prefix_insert (paths : PathSet) (path : String) :
    paths.toList <+: (paths.insert path).toList := by
  rw [toList_insert]
  split
  · exact List.prefix_refl _
  · exact List.prefix_append _ _

theorem Forest.prefix_visit (forest : Forest) (visited : PathSet) :
    visited.toList <+: (forest.visit visited).toList := by
  induction forest generalizing visited with
  | empty => exact List.prefix_refl _
  | node key package children siblings ihChildren ihSiblings =>
    cases hid : package.identity? with
    | none =>
      rw [visit_of_pathless hid]
      exact ihSiblings visited
    | some own =>
      by_cases hmem : own ∈ visited
      · rw [visit_of_mem hid hmem]
        exact ihSiblings visited
      · rw [visit_of_new hid hmem]
        exact ((visited.prefix_insert own).trans (ihChildren _)).trans (ihSiblings _)

theorem prefix_visitAll (entries : List WorkspaceEntry) (visited : PathSet) :
    visited.toList <+: (visitAll entries visited).toList := by
  induction entries generalizing visited with
  | nil => exact List.prefix_refl _
  | cons entry rest ih =>
    rw [visitAll_cons]
    exact (entry.dependencies.prefix_visit visited).trans (ih _)

theorem visitAll_append (entries others : List WorkspaceEntry) (visited : PathSet) :
    visitAll (entries ++ others) visited = visitAll others (visitAll entries visited) :=
  List.foldl_append

/-- What is added later stands behind what was there. -/
theorem PathSet.sublist_of_prefix {visited later : PathSet} {old new : String}
    (h : visited.toList <+: later.toList) (hold : old ∈ visited) (hnew : new ∉ visited)
    (hlater : new ∈ later) : [old, new].Sublist later.toList := by
  obtain ⟨added, hadded⟩ := h
  rw [← mem_toList, ← hadded, List.mem_append] at hlater
  have hmem : new ∈ added := hlater.resolve_left hnew
  rw [← hadded]
  exact (List.singleton_sublist.mpr hold).append (List.singleton_sublist.mpr hmem)

/-! ### Whatever is added has its support -/

section

variable {own path : String} {below behind : Outline} {listed : List String}

/-- What has its support below a package has it in the mapping of the package, if it is listed
behind the package. -/
theorem Supported.of_below (h : Supported below.directPaths below.occurrences listed path)
    (hbefore : [own, path].Sublist listed) (behind : Outline) :
    Supported (Outline.node own below behind).directPaths
      (Outline.node own below behind).occurrences listed path := by
  have hinner : below.occurrences ⊆ (Outline.node own below behind).occurrences :=
    List.subset_cons_of_subset _ (List.subset_append_left _ _)
  refine ⟨Or.inr ?_, (h.mono (List.Subset.refl _) hinner (List.Sublist.refl _)).expanded⟩
  rcases h.reason with hdirect | ⟨parent, inner, hparent, hpath, hfirst⟩
  · exact ⟨own, below, List.mem_cons_self, hdirect, hbefore⟩
  · exact ⟨parent, inner, hinner hparent, hpath, hfirst⟩

theorem Supported.of_behind (h : Supported behind.directPaths behind.occurrences listed path) :
    Supported (Outline.node own below behind).directPaths
      (Outline.node own below behind).occurrences listed path :=
  h.mono (List.subset_cons_self own _)
    (List.subset_cons_of_subset _ (List.subset_append_right _ _)) (List.Sublist.refl _)

end

/-- The step over one mapping. A package is a root of its mapping, and all that stands directly
below it is visited before the walk goes on; what comes in below it stands behind it. -/
theorem Forest.supported_of_mem_visit {forest : Forest} {visited : PathSet} {path : String}
    (hpath : path ∈ forest.visit visited) :
    path ∈ visited ∨ Supported forest.outline.directPaths forest.outline.occurrences
      (forest.visit visited).toList path := by
  induction forest generalizing visited with
  | empty => exact Or.inl hpath
  | node key package children siblings ihChildren ihSiblings =>
    cases hid : package.identity? with
    | none =>
      rw [visit_of_pathless hid] at hpath ⊢
      rw [outline_of_pathless hid]
      exact ihSiblings hpath
    | some own =>
      rw [outline_of_identity hid]
      by_cases hmem : own ∈ visited
      · rw [visit_of_mem hid hmem] at hpath ⊢
        exact (ihSiblings hpath).imp_right Supported.of_behind
      · rw [visit_of_new hid hmem] at hpath ⊢
        have hgrows := (siblings.prefix_visit (children.visit (visited.insert own))).sublist
        rcases ihSiblings hpath with hinner | hlater
        · by_cases hentered : path ∈ visited.insert own
          · rcases PathSet.mem_insert.mp hentered with hold | rfl
            · exact Or.inl hold
            · refine Or.inr ⟨Or.inl List.mem_cons_self, children.outline, List.mem_cons_self, ?_⟩
              intro next hnext
              rw [directPaths_outline] at hnext
              exact hgrows.subset (mem_visit_of_direct hnext)
          · have hbelow := (ihChildren hinner).resolve_left hentered
            have hbefore := PathSet.sublist_of_prefix (children.prefix_visit (visited.insert own))
              (PathSet.mem_insert.mpr (Or.inr rfl)) hentered hinner
            have hnode := hbelow.of_below hbefore siblings.outline
            exact Or.inr (hnode.mono (List.Subset.refl _) (List.Subset.refl _) hgrows)
        · exact Or.inr hlater.of_behind

theorem supported_of_mem_visitAll {entries : List WorkspaceEntry} {visited : PathSet}
    {path : String} (hpath : path ∈ visitAll entries visited) :
    path ∈ visited ∨ Supported (rootPaths entries) (occurrencesIn entries)
      (visitAll entries visited).toList path := by
  induction entries generalizing visited with
  | nil => exact Or.inl hpath
  | cons entry rest ih =>
    rw [visitAll_cons] at hpath ⊢
    rw [rootPaths, occurrencesIn, List.flatMap_cons, List.flatMap_cons]
    rcases ih hpath with hentry | hrest
    · refine (Forest.supported_of_mem_visit hentry).imp_right fun h => ?_
      rw [Forest.directPaths_outline] at h
      exact h.mono (List.subset_append_left _ _) (List.subset_append_left _ _)
        (prefix_visitAll rest _).sublist
    · exact Or.inr (hrest.mono (List.subset_append_right _ _) (List.subset_append_right _ _)
        (List.Sublist.refl _))

theorem supported_of_mem_closure {entries : List WorkspaceEntry} {path : String}
    (hpath : path ∈ closure entries) :
    Supported (rootPaths entries) (occurrencesIn entries) (closure entries).toList path := by
  rw [closure_eq_visitAll] at hpath ⊢
  exact (supported_of_mem_visitAll hpath).resolve_left List.not_mem_nil

theorem ne_empty_of_mem_closure {entries : List WorkspaceEntry} {path : String}
    (hpath : path ∈ closure entries) : path ≠ "" := by
  obtain ⟨below, hoccurs, -⟩ := (supported_of_mem_closure hpath).expanded
  obtain ⟨entry, -, hentry⟩ := List.mem_flatMap.mp hoccurs
  exact Forest.ne_empty_of_mem_occurrences hentry

theorem prefix_closure_append (entries others : List WorkspaceEntry) :
    (closure entries).toList <+: (closure (entries ++ others)).toList := by
  rw [closure_eq_visitAll, closure_eq_visitAll, visitAll_append]
  exact prefix_visitAll others _

/-- The closure of any trees: no path twice and none that is empty, all direct dependencies, each
path with its support, and with more entries the same list with more behind it. -/
theorem closure_is_supported (entries : List WorkspaceEntry) :
    (closure entries).toList.Nodup ∧ "" ∉ (closure entries).toList ∧
    (∀ path ∈ rootPaths entries, path ∈ (closure entries).toList) ∧
    (∀ path ∈ (closure entries).toList,
      Supported (rootPaths entries) (occurrencesIn entries) (closure entries).toList path) ∧
    ∀ others, (closure entries).toList <+: (closure (entries ++ others)).toList := by
  refine ⟨(closure entries).nodup, fun hempty => ne_empty_of_mem_closure hempty rfl, ?_,
    fun path hpath => supported_of_mem_closure hpath, prefix_closure_append entries⟩
  intro path hroot
  rw [closure_eq_visitAll]
  exact mem_visitAll_of_root hroot

def divergingEntry : WorkspaceEntry where
  name := "app"
  version := ""
  path := ""
  isPrivate := false
  dependencies :=
    let below (name : String) := Forest.node name ⟨name, "", "/" ++ name⟩ .empty .empty
    .node "a" ⟨"a", "", "/a"⟩ (.node "s" ⟨"s", "", "/s"⟩ (below "x") .empty)
      (.node "b" ⟨"b", "", "/b"⟩ (.node "s" ⟨"s", "", "/s"⟩ (below "y") .empty) .empty)

/-- The first of two different occurrences counts, also where more entries follow. -/
theorem closure_of_diverging_occurrences :
    (closure [divergingEntry]).toList = ["/a", "/s", "/x", "/b"] ∧
      ¬ Consistent (occurrencesIn [divergingEntry]) ∧
      Supported ["/a", "/b"] (occurrencesIn [divergingEntry]) ["/a", "/s", "/x", "/b"] "/s" ∧
      ["/a", "/s", "/x", "/b"] <+: (closure [divergingEntry, mutualEntry]).toList := by
  have hlist : (closure [divergingEntry]).toList = ["/a", "/s", "/x", "/b"] := by
    rw [closure_eq_visitAll]
    decide
  have hroots : rootPaths [divergingEntry] = ["/a", "/b"] := by decide
  obtain ⟨-, -, -, hsupported, hprefix⟩ := closure_is_supported [divergingEntry]
  rw [hlist, hroots] at hsupported
  refine ⟨hlist, by decide, hsupported "/s" (by decide), ?_⟩
  rw [← hlist]
  exact hprefix [mutualEntry]

end ProductionClosure

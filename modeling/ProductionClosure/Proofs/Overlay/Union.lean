import ProductionClosure.Proofs.Overlay

/-!
Merging as the union of ordered sets. Merged paths are those of both lists, each once, at the place
of its first mention. What matters of a list is therefore only which paths it mentions and which of
them first: merged lists can be merged again in any grouping, and merging in what is there already
changes nothing.
-/

namespace ProductionClosure

/-- The members of two lists, each once: those of the first list in the order of their first mention
there, and behind them those that only the second list has, in the order of theirs. -/
structure OrderedUnion (first second union : List String) : Prop where
  nodup : union.Nodup
  mem_iff : ∀ path, path ∈ union ↔ path ∈ first ∨ path ∈ second
  order : ∃ old new, union = old ++ new ∧ FirstMentions first old ∧
    FirstMentions (second.filter (· ∉ first)) new

variable (first second third : List String)

theorem orderedUnion_mergePaths : OrderedUnion first second (mergePaths first second) where
  nodup := mergePaths_nodup first second
  mem_iff _ := mem_mergePaths
  order := by
    refine ⟨mergePaths first [], _, mergePaths_eq_append first second, ?_,
      PathSet.firstMentions_ofList _⟩
    rw [mergePaths, List.append_nil]
    exact PathSet.firstMentions_ofList first

/-! ### Merging what was merged -/

theorem mergePaths_mergePaths_left :
    mergePaths (mergePaths first second) third =
      (PathSet.ofList (first ++ second ++ third)).toList := by
  have hmerged : mergePaths (mergePaths first second) [] = mergePaths first second := by
    rw [mergePaths, List.append_nil]
    exact PathSet.toList_ofList_of_nodup (mergePaths_nodup first second)
  have hnew : third.filter (· ∉ mergePaths first second) =
      third.filter (· ∉ first ++ second) := by
    simp only [mem_mergePaths, List.mem_append]
  rw [mergePaths_eq_append, hmerged, hnew, PathSet.toList_ofList_append]
  rfl

theorem mergePaths_mergePaths_right :
    mergePaths first (mergePaths second third) =
      (PathSet.ofList (first ++ (second ++ third))).toList := by
  -- repeats in the merged list are dropped once, by whichever merging comes to them
  have hnew : (PathSet.ofList ((mergePaths second third).filter (· ∉ first))).toList =
      (PathSet.ofList ((second ++ third).filter (· ∉ first))).toList := by
    rw [PathSet.toList_ofList_of_nodup ((mergePaths_nodup second third).filter _),
      PathSet.toList_ofList_filter, mergePaths]
  rw [mergePaths_eq_append, hnew, PathSet.toList_ofList_append, mergePaths, List.append_nil]

/-- Merging in what is there already drops repeats and does nothing else. -/
theorem mergePaths_of_subset {first second : List String} (h : second ⊆ first) :
    mergePaths first second = mergePaths first [] := by
  have hnone : second.filter (· ∉ first) = [] := by
    rw [List.filter_eq_nil_iff]
    intro path hpath hnew
    exact of_decide_eq_true hnew (h hpath)
  rw [mergePaths_eq_append, hnone, PathSet.ofList_nil, PathSet.toList_empty, List.append_nil]

theorem mergePaths_nil_right_eq_iff : mergePaths first [] = first ↔ first.Nodup := by
  constructor
  · intro h
    rw [← h]
    exact mergePaths_nodup first []
  · intro h
    rw [mergePaths, List.append_nil]
    exact PathSet.toList_ofList_of_nodup h

theorem mergePaths_nil_left_eq_iff : mergePaths [] first = first ↔ first.Nodup := by
  have hsides : mergePaths [] first = mergePaths first [] := by
    rw [mergePaths, mergePaths, List.nil_append, List.append_nil]
  rw [hsides, mergePaths_nil_right_eq_iff]

theorem mergePaths_absorbs {more : List String} (h : more ⊆ first ++ second) :
    mergePaths (mergePaths first second) more = mergePaths first second := by
  have hsub : more ⊆ mergePaths first second :=
    fun path hpath => mem_mergePaths.mpr (List.mem_append.mp (h hpath))
  rw [mergePaths_of_subset hsub, mergePaths_nil_right_eq_iff]
  exact mergePaths_nodup first second

theorem mergePaths_mergePaths_self :
    mergePaths first (mergePaths first second) = mergePaths first second := by
  have hrepeat : (first ++ second).filter (· ∉ first) = second.filter (· ∉ first) := by
    have hnone : first.filter (· ∉ first) = [] := by
      rw [List.filter_eq_nil_iff]
      exact fun path hpath hnew => of_decide_eq_true hnew hpath
    rw [List.filter_append, hnone, List.nil_append]
  rw [mergePaths_mergePaths_right, PathSet.toList_ofList_append, hrepeat, mergePaths_eq_append,
    mergePaths, List.append_nil]

/-- Merging is the union of ordered sets. It is associative, the empty list changes exactly those
lists nothing that have no repeats, and what was merged in once may be merged in again, on either
side. -/
theorem mergePaths_is_ordered_union :
    OrderedUnion first second (mergePaths first second) ∧
    mergePaths first (mergePaths second third) = mergePaths (mergePaths first second) third ∧
    (mergePaths first [] = first ↔ first.Nodup) ∧ (mergePaths [] first = first ↔ first.Nodup) ∧
    mergePaths (mergePaths first second) first = mergePaths first second ∧
    mergePaths (mergePaths first second) second = mergePaths first second ∧
    mergePaths first (mergePaths first second) = mergePaths first second := by
  refine ⟨orderedUnion_mergePaths first second, ?_, mergePaths_nil_right_eq_iff first,
    mergePaths_nil_left_eq_iff first, ?_, ?_, mergePaths_mergePaths_self first second⟩
  · rw [mergePaths_mergePaths_right, mergePaths_mergePaths_left, List.append_assoc]
  · exact mergePaths_absorbs first second (List.subset_append_left first second)
  · exact mergePaths_absorbs first second (List.subset_append_right first second)

example : mergePaths ["/b", "/a", "/b"] ["/c", "/a", "/d", "/c"] = ["/b", "/a", "/c", "/d"] := by
  decide

end ProductionClosure

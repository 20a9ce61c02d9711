import Mathlib.Data.List.Induction
import Mathlib.Data.List.Nodup
import ProductionClosure.Closure.PathSet

/-!
A set of paths made from a list keeps each member at its first mention. What that means is stated
without the set: no repeats, the same members, and of two members the one mentioned first comes
first. Two lists in a row give the mentions of the first list, and behind them those of the second
list that are new.
-/

namespace ProductionClosure

/-- The members of a list in the order of their first mention, each once. -/
structure FirstMentions (items distinct : List String) : Prop where
  nodup : distinct.Nodup
  mem_iff : ∀ path, path ∈ distinct ↔ path ∈ items
  order : ∀ path ∈ distinct, ∀ other ∈ distinct,
    distinct.idxOf path < distinct.idxOf other ↔ items.idxOf path < items.idxOf other

namespace FirstMentions

variable {items distinct : List String} {item : String}

theorem nil : FirstMentions [] [] where
  nodup := List.nodup_nil
  mem_iff _ := Iff.rfl
  order _ hpath := absurd hpath List.not_mem_nil

/-- A member mentioned again changes nothing. -/
theorem again (h : FirstMentions items distinct) (hold : item ∈ items) :
    FirstMentions (items ++ [item]) distinct where
  nodup := h.nodup
  mem_iff path := by
    rw [h.mem_iff, List.mem_append, List.mem_singleton]
    constructor
    · exact Or.inl
    · rintro (hmem | rfl)
      · exact hmem
      · exact hold
  order path hpath other hother := by
    rw [List.idxOf_append_of_mem ((h.mem_iff path).mp hpath),
      List.idxOf_append_of_mem ((h.mem_iff other).mp hother)]
    exact h.order path hpath other hother

/-- A new member goes behind all others. -/
theorem new (h : FirstMentions items distinct) (hnew : item ∉ items) :
    FirstMentions (items ++ [item]) (distinct ++ [item]) where
  nodup := by
    have hitem : item ∉ distinct := fun hmem => hnew ((h.mem_iff item).mp hmem)
    rw [List.nodup_append]
    refine ⟨h.nodup, List.nodup_singleton item, ?_⟩
    intro path hpath other hother heq
    rw [List.mem_singleton.mp hother] at heq
    exact hitem (heq ▸ hpath)
  mem_iff path := by
    rw [List.mem_append, List.mem_append, h.mem_iff]
  order path hpath other hother := by
    have hitem : item ∉ distinct := fun hmem => hnew ((h.mem_iff item).mp hmem)
    have hbefore : ∀ {old}, old ∈ distinct →
        distinct.idxOf old < distinct.length ∧ items.idxOf old < items.length := by
      intro old hold
      exact ⟨List.idxOf_lt_length_iff.mpr hold,
        List.idxOf_lt_length_iff.mpr ((h.mem_iff old).mp hold)⟩
    rcases List.mem_append.mp hpath with hp | hp
    · have hpi := (h.mem_iff path).mp hp
      rw [List.idxOf_append_of_mem hp, List.idxOf_append_of_mem hpi]
      rcases List.mem_append.mp hother with ho | ho
      · rw [List.idxOf_append_of_mem ho, List.idxOf_append_of_mem ((h.mem_iff other).mp ho)]
        exact h.order path hp other ho
      · obtain rfl := List.mem_singleton.mp ho
        rw [List.idxOf_append_of_notMem hitem, List.idxOf_append_of_notMem hnew]
        have := hbefore hp
        omega
    · -- the new item stands last in both lists, so it comes before nothing
      obtain rfl := List.mem_singleton.mp hp
      rw [List.idxOf_append_of_notMem hitem, List.idxOf_append_of_notMem hnew]
      rcases List.mem_append.mp hother with ho | ho
      · rw [List.idxOf_append_of_mem ho, List.idxOf_append_of_mem ((h.mem_iff other).mp ho)]
        have := hbefore ho
        omega
      · obtain rfl := List.mem_singleton.mp ho
        rw [List.idxOf_append_of_notMem hitem, List.idxOf_append_of_notMem hnew]
        simp only [Nat.lt_irrefl]

theorem pairwise (h : FirstMentions items distinct) :
    distinct.Pairwise fun path other => items.idxOf path < items.idxOf other := by
  rw [List.pairwise_iff_getElem]
  intro i j hi hj hij
  rw [← h.order _ (List.getElem_mem hi) _ (List.getElem_mem hj), h.nodup.idxOf_getElem i hi,
    h.nodup.idxOf_getElem j hj]
  exact hij

theorem unique {other : List String} (h : FirstMentions items distinct)
    (h' : FirstMentions items other) : distinct = other := by
  have hperm : distinct.Perm other := (List.perm_ext_iff_of_nodup h.nodup h'.nodup).mpr
    fun path => (h.mem_iff path).trans (h'.mem_iff path).symm
  exact hperm.eq_of_pairwise (fun _ _ _ _ hlt hgt => absurd hgt (Nat.lt_asymm hlt)) h.pairwise
    h'.pairwise

end FirstMentions

namespace PathSet

theorem toList_insert_of_mem {paths : PathSet} {path : String} (h : path ∈ paths) :
    (paths.insert path).toList = paths.toList := by
  rw [toList_insert, if_pos h]

theorem toList_insert_of_new {paths : PathSet} {path : String} (h : path ∉ paths) :
    (paths.insert path).toList = paths.toList ++ [path] := by
  rw [toList_insert, if_neg h]

theorem ofList_nil : ofList [] = ∅ := rfl

theorem ofList_append_singleton (items : List String) (item : String) :
    ofList (items ++ [item]) = (ofList items).insert item := by
  rw [ofList, List.foldl_append]
  rfl

theorem firstMentions_ofList (items : List String) :
    FirstMentions items (ofList items).toList := by
  induction items using List.reverseRecOn with
  | nil => exact .nil
  | append_singleton items item ih =>
    rw [ofList_append_singleton]
    by_cases hmem : item ∈ ofList items
    · rw [toList_insert_of_mem hmem]
      exact ih.again ((ih.mem_iff item).mp hmem)
    · rw [toList_insert_of_new hmem]
      exact ih.new fun hitem => hmem ((ih.mem_iff item).mpr hitem)

theorem mem_ofList {items : List String} {path : String} :
    path ∈ ofList items ↔ path ∈ items := (firstMentions_ofList items).mem_iff path

/-- Behind the mentions of the first list stand those of the second list that are new. -/
theorem toList_ofList_append (items more : List String) :
    (ofList (items ++ more)).toList =
      (ofList items).toList ++ (ofList (more.filter (· ∉ items))).toList := by
  induction more using List.reverseRecOn with
  | nil => rw [List.append_nil, List.filter_nil, ofList_nil, toList_empty, List.append_nil]
  | append_singleton more item ih =>
    rw [← List.append_assoc, ofList_append_singleton, List.filter_append]
    by_cases hitems : item ∈ items
    · -- not added on the left, and filtered out on the right
      have hmem : item ∈ ofList (items ++ more) := mem_ofList.mpr (List.mem_append_left _ hitems)
      have hdropped : [item].filter (· ∉ items) = [] := by simp [hitems]
      rw [toList_insert_of_mem hmem, hdropped, List.append_nil, ih]
    · have hkept : [item].filter (· ∉ items) = [item] := by simp [hitems]
      rw [hkept, ofList_append_singleton]
      by_cases hmore : item ∈ more
      · have hmem : item ∈ ofList (items ++ more) := mem_ofList.mpr (List.mem_append_right _ hmore)
        have hmem' : item ∈ ofList (more.filter (· ∉ items)) := by
          rw [mem_ofList, List.mem_filter]
          exact ⟨hmore, decide_eq_true hitems⟩
        rw [toList_insert_of_mem hmem, toList_insert_of_mem hmem', ih]
      · have hnew : item ∉ ofList (items ++ more) := by
          rw [mem_ofList, List.mem_append, not_or]
          exact ⟨hitems, hmore⟩
        have hnew' : item ∉ ofList (more.filter (· ∉ items)) := by
          rw [mem_ofList, List.mem_filter]
          exact fun h => hmore h.1
        rw [toList_insert_of_new hnew, toList_insert_of_new hnew', ih, List.append_assoc]

/-- A list without repeats is the list of its first mentions. -/
theorem toList_ofList_of_nodup {items : List String} (h : items.Nodup) :
    (ofList items).toList = items := by
  induction items using List.reverseRecOn with
  | nil => rfl
  | append_singleton items item ih =>
    obtain ⟨hitems, -, hapart⟩ := List.nodup_append.mp h
    have hnew : item ∉ ofList items := by
      rw [mem_ofList]
      exact fun hmem => hapart item hmem item List.mem_cons_self rfl
    rw [ofList_append_singleton, toList_insert_of_new hnew, ih hitems]

/-- Leaving members out does not change the order of the others. -/
theorem toList_ofList_filter (keep : String → Bool) (items : List String) :
    (ofList (items.filter keep)).toList = (ofList items).toList.filter keep := by
  induction items using List.reverseRecOn with
  | nil => rfl
  | append_singleton items item ih =>
    rw [List.filter_append, ofList_append_singleton]
    cases hkeep : keep item with
    | false =>
      have hdropped : [item].filter keep = [] := by simp [hkeep]
      rw [hdropped, List.append_nil, ih, toList_insert]
      split
      · rfl
      · rw [List.filter_append, hdropped, List.append_nil]
    | true =>
      have hkept : [item].filter keep = [item] := by simp [hkeep]
      rw [hkept, ofList_append_singleton]
      by_cases hmem : item ∈ items
      · have hold : item ∈ ofList items := mem_ofList.mpr hmem
        have hold' : item ∈ ofList (items.filter keep) :=
          mem_ofList.mpr (List.mem_filter.mpr ⟨hmem, hkeep⟩)
        rw [toList_insert_of_mem hold, toList_insert_of_mem hold', ih]
      · have hnew : item ∉ ofList items := fun hmem' => hmem (mem_ofList.mp hmem')
        have hnew' : item ∉ ofList (items.filter keep) :=
          fun hmem' => hmem (List.mem_filter.mp (mem_ofList.mp hmem')).1
        rw [toList_insert_of_new hnew, toList_insert_of_new hnew', ih, List.filter_append, hkept]

end PathSet

end ProductionClosure

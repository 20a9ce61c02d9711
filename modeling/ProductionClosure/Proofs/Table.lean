import Mathlib.Data.List.Nodup

/-!
Looking up in a table of keys and values. What is found is in the table, and where each key is there
once it is all that the table has for its key.
-/

namespace ProductionClosure.Table

variable {α β : Type} [BEq α] [LawfulBEq α] {table : List (α × β)} {key : α} {value : β}

theorem mem_of_lookup (h : table.lookup key = some value) : (key, value) ∈ table := by
  obtain ⟨front, back, rfl, -⟩ := List.lookup_eq_some_iff.mp h
  exact List.mem_append_right front List.mem_cons_self

theorem isSome_lookup_of_mem (h : (key, value) ∈ table) : (table.lookup key).isSome = true := by
  cases hlookup : table.lookup key with
  | some found => rfl
  | none =>
    have hother := List.lookup_eq_none_iff.mp hlookup _ h
    rw [bne_self_eq_false] at hother
    cases hother

/-- In a table with each key once, looking up is membership. -/
theorem lookup_eq_some_iff_mem (h : (table.map Prod.fst).Nodup) :
    table.lookup key = some value ↔ (key, value) ∈ table := by
  refine ⟨mem_of_lookup, fun hmem => ?_⟩
  obtain ⟨found, hfound⟩ := Option.isSome_iff_exists.mp (isSome_lookup_of_mem hmem)
  have hboth := List.inj_on_of_nodup_map h (mem_of_lookup hfound) hmem rfl
  rw [hfound]
  exact congrArg (fun entry => some entry.2) hboth

end ProductionClosure.Table

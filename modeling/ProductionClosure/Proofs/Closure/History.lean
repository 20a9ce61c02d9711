import ProductionClosure.Closure.History
import ProductionClosure.Proofs.Closure.Support

/-!
A set of paths over its whole life. Whatever was asked of it and in whatever order, the paths that
were added so far tell each of its answers: they are kept at their first mention, and what is asked
in between leaves no trace. An iteration gives the list as it stood at the start, path by path,
until a path that is new disturbs it.
-/

namespace ProductionClosure.PathSet

/-- What the paths added so far say to a request. No set is needed to tell it. -/
inductive Told (known : List String) : Request → Answer → Prop where
  | added (path : String) : Told known (.add path) (.truth (path ∉ known))
  | text (path : String) : Told known (.holds (.string path)) (.truth (path ∈ known))
  | scalar {value : Json} (htext : value.string? = none) (hitems : value.array? = none)
      (hmembers : value.members? = none) : Told known (.holds value) (.truth false)
  | array (items : List Json) : Told known (.holds (.array items)) (.failed (.unhashable "list"))
  | object (members : Json.Members) :
      Told known (.holds (.object members)) (.failed (.unhashable "dict"))
  | counted {items : List String} (h : FirstMentions known items) :
      Told known .size (.count items.length)
  | listed {items : List String} (h : FirstMentions known items) : Told known .list (.paths items)
  | iterated {items : List String} (h : FirstMentions known items) :
      Told known .iterate (.paths items)

theorem Told.unique {known : List String} {request : Request} {answer other : Answer}
    (h : Told known request answer) (h' : Told known request other) : answer = other := by
  cases h with
  | added path =>
    cases h' with
    | added => rfl
  | text path =>
    cases h' with
    | text => rfl
    | scalar htext => cases htext
  | scalar htext hitems hmembers =>
    cases h' with
    | text => cases htext
    | scalar => rfl
    | array => cases hitems
    | object => cases hmembers
  | array items =>
    cases h' with
    | scalar _ hitems => cases hitems
    | array => rfl
  | object members =>
    cases h' with
    | scalar _ _ hmembers => cases hmembers
    | object => rfl
  | counted h =>
    cases h' with
    | counted h' => rw [h.unique h']
  | listed h =>
    cases h' with
    | listed h' => rw [h.unique h']
  | iterated h =>
    cases h' with
    | iterated h' => rw [h.unique h']

/-! ### Reading without a pause -/

section Iteration

variable {paths : PathSet} {passed : Nat}

theorem Iteration.next_of_lt (h : passed < paths.size) :
    (underway paths.size passed).next paths =
      (.path paths.toList[passed], underway paths.size (passed + 1)) := by
  have hpath : paths.toList[passed]? = some paths.toList[passed] := List.getElem?_eq_getElem h
  simp only [next, if_true, hpath]

theorem Iteration.next_of_end : (underway paths.size paths.size).next paths = (.ended, finished) := by
  have hend : paths.toList[paths.size]? = none := List.getElem?_eq_none (Nat.le_refl _)
  simp only [next, if_true, hend]

theorem Iteration.next_of_grown {size : Nat} (h : size < paths.size) :
    (underway size passed).next paths = (.disturbed, underway size passed) := by
  simp only [next, if_neg (Nat.ne_of_gt h)]

/-- From wherever it has come to, an undisturbed iteration gives the rest of the list. -/
theorem Iteration.rest_underway (h : passed ≤ paths.size) :
    (underway paths.size passed).rest paths = some (paths.toList.drop passed) := by
  induction hleft : paths.size - passed generalizing passed with
  | zero =>
    obtain rfl : passed = paths.size := by omega
    rw [rest_of_ended next_of_end, size, List.drop_length]
  | succ left ih =>
    have hlt : passed < paths.size := by omega
    rw [rest_of_path (next_of_lt hlt), ih hlt (by omega), Option.map_some,
      List.drop_eq_getElem_cons hlt]

theorem Iteration.rest_start (paths : PathSet) : (start paths).rest paths = some paths.toList := by
  rw [start, rest_underway (Nat.zero_le _), List.drop_zero]

end Iteration

/-! ### One request -/

theorem ask_snd (paths : PathSet) (request : Request) :
    (paths.ask request).2 = paths.insertAll request.added?.toList := by
  cases request with
  | add path => rfl
  | holds value =>
    rw [ask]
    split <;> rfl
  | size => rfl
  | list => rfl
  | iterate =>
    rw [ask, Iteration.rest_start]
    rfl

theorem told_ask (known : List String) (request : Request) :
    Told known request ((ofList known).ask request).1 := by
  cases request with
  | add path =>
    have hnew : decide (path ∉ ofList known) = decide (path ∉ known) :=
      decide_eq_decide.mpr (not_congr mem_ofList)
    rw [ask, add, hnew]
    exact .added path
  | holds value =>
    cases value with
    | string path =>
      have hheld : decide (path ∈ ofList known) = decide (path ∈ known) :=
        decide_eq_decide.mpr mem_ofList
      rw [ask, holds, hheld]
      exact .text path
    | array items => exact .array items
    | object members => exact .object members
    | null | bool | int | float => exact .scalar rfl rfl rfl
  | size => exact .counted (firstMentions_ofList known)
  | list => exact .listed (firstMentions_ofList known)
  | iterate =>
    rw [ask, Iteration.rest_start]
    exact .iterated (firstMentions_ofList known)

/-! ### A history of requests -/

theorem added_cons (request : Request) (later : List Request) :
    added (request :: later) = request.added?.toList ++ added later := by
  rw [added, added]
  cases h : request.added? with
  | none => exact List.filterMap_cons_none h
  | some path => exact List.filterMap_cons_some h

theorem added_append (history later : List Request) :
    added (history ++ later) = added history ++ added later := List.filterMap_append

theorem after_cons (paths : PathSet) (request : Request) (later : List Request) :
    paths.after (request :: later) = (paths.ask request).2.after later := rfl

/-- The set behind a history is the one that its additions alone would make. -/
theorem after_eq_insertAll (paths : PathSet) (history : List Request) :
    paths.after history = paths.insertAll (added history) := by
  induction history generalizing paths with
  | nil => rfl
  | cons request later ih => rw [after_cons, ih, ask_snd, added_cons, insertAll_append]

theorem after_empty (history : List Request) :
    (∅ : PathSet).after history = ofList (added history) := after_eq_insertAll ∅ history

theorem length_answers (paths : PathSet) (history : List Request) :
    (paths.answers history).length = history.length := by
  induction history generalizing paths with
  | nil => rfl
  | cons request later ih => rw [answers, List.length_cons, List.length_cons, ih]

theorem answers_append (paths : PathSet) (before later : List Request) :
    paths.answers (before ++ later) =
      paths.answers before ++ (paths.after before).answers later := by
  induction before generalizing paths with
  | nil => rfl
  | cons request before ih =>
    rw [List.cons_append, answers, answers, ih, List.cons_append]
    rfl

theorem drop_answers_append (paths : PathSet) (before later : List Request) :
    (paths.answers (before ++ later)).drop before.length =
      (paths.after before).answers later := by
  rw [answers_append, ← length_answers paths before, List.drop_left]

/-- Every request is put to the set that the ones before it left. -/
theorem getElem?_answers (paths : PathSet) (before later : List Request) (request : Request) :
    (paths.answers (before ++ request :: later))[before.length]? =
      some ((paths.after before).ask request).1 := by
  rw [← List.head?_drop, drop_answers_append, answers, List.head?_cons]

def insertions (history : List Request) : List Request := history.filter (·.added?.isSome)

theorem added_insertions (history : List Request) : added (insertions history) = added history := by
  rw [added, insertions, List.filterMap_filter, added]
  congr 1
  funext request
  cases request.added? <;> rfl

/-! ### Iterations that are read now and then -/

section Readings

variable {paths : PathSet} {known : List String} {requests : List Request} {passed : Nat}

theorem prefix_after (paths : PathSet) (history : List Request) :
    paths.toList <+: (paths.after history).toList := by
  rw [after_eq_insertAll]
  induction added history generalizing paths with
  | nil => exact List.prefix_refl _
  | cons path items ih => exact (paths.prefix_insert path).trans (ih (paths.insert path))

theorem after_ofList_of_known (h : added requests ⊆ known) :
    (ofList known).after requests = ofList known := by
  rw [after_eq_insertAll]
  exact insertAll_of_subset fun path hpath => mem_ofList.mpr (h hpath)

theorem size_lt_after_of_new (h : ¬ added requests ⊆ known) :
    (ofList known).size < ((ofList known).after requests).size := by
  have hprefix := prefix_after (ofList known) requests
  refine Nat.lt_of_le_of_ne hprefix.length_le fun hsize => h fun path hpath => ?_
  -- with as many paths as before it would be the same list
  rw [← mem_ofList, ← mem_toList, hprefix.eq_of_length hsize, mem_toList, after_eq_insertAll,
    mem_insertAll]
  exact Or.inr hpath

namespace Iteration

theorem readings_finished (paths : PathSet) (turns : List (List Request)) :
    finished.readings paths turns = List.replicate turns.length .ended := by
  induction turns generalizing paths with
  | nil => rfl
  | cons requests turns ih => rw [readings, next, ih, List.length_cons, List.replicate_succ]

theorem readings_of_grown {size : Nat} (h : size < paths.size) (turns : List (List Request)) :
    (underway size passed).readings paths turns = List.replicate turns.length .disturbed := by
  induction turns generalizing paths with
  | nil => rfl
  | cons requests turns ih =>
    have hgrown : size < (paths.after requests).size :=
      Nat.lt_of_lt_of_le h (prefix_after paths requests).length_le
    rw [readings, next_of_grown hgrown, ih hgrown, List.length_cons, List.replicate_succ]

/-! One turn: nothing new came in it and there is a path to give, or none, or it brought something
new. -/

theorem readings_cons_of_known (hcalm : added requests ⊆ known)
    (hlt : passed < (ofList known).size) (turns : List (List Request)) :
    (underway (ofList known).size passed).readings (ofList known) (requests :: turns) =
      .path (ofList known).toList[passed] ::
        (underway (ofList known).size (passed + 1)).readings (ofList known) turns := by
  rw [readings, after_ofList_of_known hcalm, next_of_lt hlt]

theorem readings_cons_of_end (hcalm : added requests ⊆ known) (turns : List (List Request)) :
    (underway (ofList known).size (ofList known).size).readings (ofList known)
        (requests :: turns) = List.replicate (turns.length + 1) .ended := by
  rw [readings, after_ofList_of_known hcalm, next_of_end, readings_finished, List.replicate_succ]

theorem readings_cons_of_new (hnew : ¬ added requests ⊆ known) (turns : List (List Request)) :
    (underway (ofList known).size passed).readings (ofList known) (requests :: turns) =
      List.replicate (turns.length + 1) .disturbed := by
  have hgrown := size_lt_after_of_new hnew
  rw [readings, next_of_grown hgrown, readings_of_grown hgrown, List.replicate_succ]

/-- The reading at the end of a turn, told by the paths known at the start and the list of them that
is still to be read: the path in its place or the end, unless something new came before. Nothing
disturbs who has read the end. -/
def readingAt (known listing : List String) (turns : List (List Request)) (turn : Nat) : Reading :=
  if added (turns.take (min turn listing.length + 1)).flatten ⊆ known then
    (listing[turn]?).elim .ended .path
  else .disturbed

section Turns

variable (turns : List (List Request)) (turn : Nat)

theorem readingAt_of_new (hnew : ¬ added requests ⊆ known) (listing : List String) :
    readingAt known listing (requests :: turns) turn = .disturbed := by
  refine if_neg fun hcalm => hnew fun path hpath => hcalm ?_
  rw [List.take_succ_cons, List.flatten_cons, added_append]
  exact List.mem_append_left _ hpath

theorem readingAt_nil (hcalm : added requests ⊆ known) :
    readingAt known [] (requests :: turns) turn = .ended := by
  simp [readingAt, hcalm]

theorem readingAt_zero (hcalm : added requests ⊆ known) (path : String) (later : List String) :
    readingAt known (path :: later) (requests :: turns) 0 = .path path := by
  simp [readingAt, hcalm]

theorem readingAt_succ (hcalm : added requests ⊆ known) (path : String) (later : List String) :
    readingAt known (path :: later) (requests :: turns) (turn + 1) =
      readingAt known later turns turn := by
  refine if_congr ?_ rfl rfl
  rw [List.length_cons, Nat.succ_min_succ, List.take_succ_cons, List.flatten_cons, added_append,
    List.append_subset]
  exact and_iff_right hcalm

end Turns

theorem map_range_eq_replicate {told : Nat → Reading} {reading : Reading}
    (h : ∀ turn, told turn = reading) (count : Nat) :
    (List.range count).map told = List.replicate count reading := by
  have hall := List.map_eq_replicate_iff.mpr fun turn (_ : turn ∈ List.range count) => h turn
  rwa [List.length_range] at hall

theorem readings_underway (hpassed : passed ≤ (ofList known).size)
    (turns : List (List Request)) :
    (underway (ofList known).size passed).readings (ofList known) turns =
      (List.range turns.length).map
        (readingAt known ((ofList known).toList.drop passed) turns) := by
  induction turns generalizing passed with
  | nil => rfl
  | cons requests turns ih =>
    rw [List.length_cons]
    by_cases hcalm : added requests ⊆ known
    · rcases Nat.lt_or_eq_of_le hpassed with hlt | rfl
      · rw [readings_cons_of_known hcalm hlt, ih hlt, List.drop_eq_getElem_cons hlt,
          List.range_succ_eq_map, List.map_cons, List.map_map, readingAt_zero turns hcalm]
        congr 1
        exact List.map_congr_left fun turn _ => (readingAt_succ turns turn hcalm _ _).symm
      · rw [readings_cons_of_end hcalm, size, List.drop_length,
          map_range_eq_replicate fun turn => readingAt_nil turns turn hcalm]
    · rw [readings_cons_of_new hcalm,
        map_range_eq_replicate fun turn => readingAt_of_new turns turn hcalm _]

/-- From its start on, an iteration is read as the list at the start tells. -/
theorem readings_start (known : List String) (turns : List (List Request)) :
    (start (ofList known)).readings (ofList known) turns =
      (List.range turns.length).map (readingAt known (ofList known).toList turns) :=
  readings_underway (Nat.zero_le _) turns

end Iteration

end Readings

/-- Whatever was asked before, the paths that were added tell the answer to a request, and there is
no other that they could tell. Without the questions among what was asked all later answers stay
the same. An iteration that begins then gives the listing, path by path and each at the end of a
turn of further requests, until it has given the end or a new path disturbs it. -/
theorem added_paths_tell_answers (before later : List Request) (request : Request)
    (turns : List (List Request)) :
    (∃ answer, (answers ∅ (before ++ request :: later))[before.length]? = some answer ∧
      ∀ told, Told (added before) request told ↔ told = answer) ∧
    (answers ∅ (before ++ later)).drop before.length =
      (answers ∅ (insertions before ++ later)).drop (insertions before).length ∧
    ∃ listing, FirstMentions (added before) listing ∧
      (Iteration.start ((∅ : PathSet).after before)).readings ((∅ : PathSet).after before) turns =
        (List.range turns.length).map (Iteration.readingAt (added before) listing turns) := by
  refine ⟨⟨((ofList (added before)).ask request).1, ?_, fun told => ⟨fun h => ?_, ?_⟩⟩, ?_, ?_⟩
  · rw [getElem?_answers, after_empty]
  · exact h.unique (told_ask (added before) request)
  · rintro rfl
    exact told_ask (added before) request
  · rw [drop_answers_append, drop_answers_append, after_empty, after_empty, added_insertions]
  · refine ⟨(ofList (added before)).toList, firstMentions_ofList (added before), ?_⟩
    rw [after_empty]
    exact Iteration.readings_start (added before) turns

example : answers ∅ [.add "/c", .add "/a", .holds (.string "/b"), .add "/c", .size, .list] =
    [.truth true, .truth true, .truth false, .truth false, .count 2, .paths ["/c", "/a"]] := by
  decide

example : (Iteration.start (ofList ["/c", "/a"])).readings (ofList ["/c", "/a"])
    [[.add "/a"], [.size], [.add "/b"], [.list]] =
      [.path "/c", .path "/a", .disturbed, .disturbed] := by
  decide

end ProductionClosure.PathSet

import Mathlib.Logic.Function.Iterate
import ProductionClosure.Proofs.Path

/-!
Ways along names, where `..` cancels the name before it. Whatever a way looks like, it comes to some
levels up and then some names down, and it does so from every folder. So it can be told from a way
and a folder whether the way ends below the folder: it may leave the folder only if it comes back
through the same names, and it has to go on from there.
-/

namespace ProductionClosure.Path

def climb (absolute : Bool) (done : List String) : List String :=
  if done.getLast?.all (· = "..") then
    if absolute && done.isEmpty then done else done ++ [".."]
  else done.dropLast

def advance (absolute : Bool) (done : List String) (segment : String) : List String :=
  if segment = ".." then climb absolute done else done ++ [segment]

/-- How many levels a way goes up. -/
def ups (way : List String) : Nat := ((collapse false way).takeWhile (· = "..")).length

/-- The names by which a way goes down after it went up. -/
def downs (way : List String) : List String := (collapse false way).dropWhile (· = "..")

/-- Whether a path leads below a folder, as far as texts tell. -/
def Below (folder path : Path) : Prop :=
  path.anchor = folder.anchor ∧
    ∃ more, more ≠ [] ∧ ".." ∉ more ∧
      path.normalized.segments = folder.normalized.segments ++ more

/-- The way leads from the folder to something below it: by as many levels as it goes up it comes
down again by the same names, and then it goes on. Above the root there is nothing to go up to. -/
def LeadsBelow (folder : Path) (way : List String) : Prop :=
  (folder.isAbsolute = true ∨ ups way ≤ (downs folder.segments).length) ∧
    ∃ more, more ≠ [] ∧
      downs way =
        (downs folder.segments).drop ((downs folder.segments).length - ups way) ++ more

variable {absolute : Bool} {way down lead : List String}

/-! ### Going up -/

theorem climb_append (lead : List String) (hne : down ≠ []) (hdown : ".." ∉ down) :
    climb absolute (lead ++ down) = lead ++ down.dropLast := by
  have hlast : down.getLast hne ≠ ".." := fun heq => hdown (heq ▸ List.getLast_mem hne)
  rw [climb, List.getLast?_append_of_ne_nil lead hne, List.getLast?_eq_some_getLast hne,
    List.dropLast_append_of_ne_nil hne]
  simp [hlast]

theorem iterate_climb_root (up : Nat) : (climb true)^[up] [] = [] :=
  Function.iterate_fixed rfl up

theorem iterate_climb_parents (up count : Nat) :
    (climb false)^[up] (List.replicate count "..") = List.replicate (up + count) ".." := by
  induction up with
  | zero => rw [Function.iterate_zero_apply, Nat.zero_add]
  | succ up ih =>
    rw [Function.iterate_succ_apply', ih, Nat.add_right_comm, List.replicate_succ', climb]
    have hparents : (List.replicate (up + count) "..").getLast?.all (· = "..") = true := by
      cases hlast : (List.replicate (up + count) "..").getLast? with
      | none => rfl
      | some last => simpa using List.eq_of_mem_replicate (List.mem_of_getLast? hlast)
    rw [if_pos hparents, if_neg (by simp)]

/-- As long as there are names to cancel, going up cancels them. -/
theorem iterate_climb_of_le (lead : List String) (hdown : ".." ∉ down) {up : Nat}
    (h : up ≤ down.length) :
    (climb absolute)^[up] (lead ++ down) = lead ++ down.take (down.length - up) := by
  induction up with
  | zero => rw [Function.iterate_zero_apply, Nat.sub_zero, List.take_length]
  | succ up ih =>
    have hne : down.take (down.length - up) ≠ [] := by
      rw [ne_eq, List.take_eq_nil_iff, not_or]
      exact ⟨by omega, fun hnil => by simp [hnil] at h⟩
    have hkept : ".." ∉ down.take (down.length - up) :=
      fun hmem => hdown (List.take_subset _ _ hmem)
    rw [Function.iterate_succ_apply', ih (by omega), climb_append lead hne hkept,
      List.dropLast_eq_take, List.take_take, List.length_take]
    congr 2
    omega

/-- Once all names are cancelled, it goes up from where they began. -/
theorem iterate_climb_of_ge (lead : List String) (hdown : ".." ∉ down) {up : Nat}
    (h : down.length ≤ up) :
    (climb absolute)^[up] (lead ++ down) = (climb absolute)^[up - down.length] lead := by
  have hall : (climb absolute)^[down.length] (lead ++ down) = _ :=
    iterate_climb_of_le lead hdown (Nat.le_refl down.length)
  rw [Nat.sub_self, List.take_zero, List.append_nil] at hall
  calc
    _ = (climb absolute)^[up - down.length + down.length] (lead ++ down) := by
      rw [Nat.sub_add_cancel h]
    _ = _ := by rw [Function.iterate_add_apply, hall]

/-! ### What a way comes to -/

/-- A way goes up some levels and then down, from wherever it starts. -/
theorem exists_foldl_advance (way : List String) :
    ∃ up down, ".." ∉ down ∧ ∀ absolute done,
      way.foldl (advance absolute) done = (climb absolute)^[up] done ++ down := by
  induction way using List.reverseRecOn with
  | nil => exact ⟨0, [], List.not_mem_nil, fun _ done => (List.append_nil done).symm⟩
  | append_singleton way segment ih =>
    obtain ⟨up, down, hdown, hway⟩ := ih
    simp only [List.foldl_append, hway, List.foldl_cons, List.foldl_nil, advance]
    by_cases hparent : segment = ".."
    · by_cases hne : down = []
      · refine ⟨up + 1, [], List.not_mem_nil, fun absolute done => ?_⟩
        rw [if_pos hparent, hne, List.append_nil, List.append_nil, Function.iterate_succ_apply']
      · refine ⟨up, down.dropLast, fun hmem => hdown (List.dropLast_subset down hmem), ?_⟩
        intro absolute done
        rw [if_pos hparent, climb_append _ hne hdown]
    · refine ⟨up, down ++ [segment], ?_, fun absolute done => ?_⟩
      · rw [List.mem_append, List.mem_singleton]
        exact fun hmem => hmem.elim hdown fun heq => hparent heq.symm
      · rw [if_neg hparent, List.append_assoc]

/-- The levels and the names can be read off the way itself. -/
theorem not_mem_downs_and_foldl_advance (way : List String) :
    ".." ∉ downs way ∧ ∀ absolute done,
      way.foldl (advance absolute) done = (climb absolute)^[ups way] done ++ downs way := by
  obtain ⟨up, down, hdown, hway⟩ := exists_foldl_advance way
  have hcollapse : collapse false way = List.replicate up ".." ++ down := by
    have hparents := iterate_climb_parents up 0
    rw [List.replicate_zero, Nat.add_zero] at hparents
    rw [← hparents]
    exact hway false []
  have hparents : ∀ segment ∈ List.replicate up "..", decide (segment = "..") = true :=
    fun segment hmem => decide_eq_true (List.eq_of_mem_replicate hmem)
  have hstop : down.takeWhile (· = "..") = [] ∧ down.dropWhile (· = "..") = down := by
    cases down with
    | nil => exact ⟨rfl, rfl⟩
    | cons first rest =>
      have hfirst : first ≠ ".." := fun heq => hdown (heq ▸ List.mem_cons_self)
      simp [hfirst]
  have hups : ups way = up := by
    rw [ups, hcollapse, List.takeWhile_append_of_pos hparents, hstop.1, List.append_nil,
      List.length_replicate]
  have hdowns : downs way = down := by
    rw [downs, hcollapse, List.dropWhile_append_of_pos hparents, hstop.2]
  rw [hups, hdowns]
  exact ⟨hdown, hway⟩

theorem not_mem_downs (way : List String) : ".." ∉ downs way :=
  (not_mem_downs_and_foldl_advance way).1

theorem collapse_append (absolute : Bool) (front way : List String) :
    collapse absolute (front ++ way) =
      (climb absolute)^[ups way] (collapse absolute front) ++ downs way := by
  have hsplit : collapse absolute (front ++ way) =
      way.foldl (advance absolute) (collapse absolute front) := List.foldl_append
  rw [hsplit, (not_mem_downs_and_foldl_advance way).2]

/-- A path from the root has nothing left to go up. -/
theorem collapse_eq (absolute : Bool) (way : List String) :
    collapse absolute way =
      (if absolute then [] else List.replicate (ups way) "..") ++ downs way := by
  have hway := collapse_append absolute [] way
  rw [List.nil_append] at hway
  rw [hway]
  cases absolute with
  | true => exact congrArg (· ++ downs way) (iterate_climb_root (ups way))
  | false => exact congrArg (· ++ downs way) (iterate_climb_parents (ups way) 0)

/-- Without `..` there is nothing to cancel. -/
theorem collapse_of_no_parent (h : ".." ∉ way) : collapse absolute way = way := by
  induction way using List.reverseRecOn with
  | nil => rfl
  | append_singleton way segment ih =>
    rw [List.mem_append, not_or, List.mem_singleton] at h
    have hdone := ih h.1
    simp only [Path.collapse, List.foldl_append, List.foldl_cons, List.foldl_nil] at hdone ⊢
    rw [hdone, if_neg (Ne.symm h.2)]

theorem ups_of_no_parent (h : ".." ∉ way) : ups way = 0 := by
  rw [ups, collapse_of_no_parent h]
  cases way with
  | nil => rfl
  | cons first rest =>
    have hfirst : first ≠ ".." := fun heq => h (heq ▸ List.mem_cons_self)
    simp [hfirst]

theorem downs_of_no_parent (h : ".." ∉ way) : downs way = way := by
  have hway := collapse_eq false way
  rw [ups_of_no_parent h, collapse_of_no_parent h] at hway
  exact hway.symm

/-! ### Below a folder -/

/-- Where a way ends is decided by its levels up, its names down, and the names of the folder. -/
theorem below_iff_leadsBelow (folder : Path) (way : List String) :
    folder.Below { folder with segments := folder.segments ++ way } ↔ folder.LeadsBelow way := by
  have hfolder := collapse_eq folder.isAbsolute folder.segments
  have hpath : (Path.mk folder.anchor (folder.segments ++ way)).normalized.segments =
      (climb folder.isAbsolute)^[ups way] (collapse folder.isAbsolute folder.segments) ++
        downs way := collapse_append folder.isAbsolute folder.segments way
  have hnames := not_mem_downs folder.segments
  have hway := not_mem_downs way
  unfold Below LeadsBelow
  rw [hpath]
  show _ ∧ (∃ more, more ≠ [] ∧ ".." ∉ more ∧
    _ = collapse folder.isAbsolute folder.segments ++ more) ↔ _
  rw [hfolder]
  generalize downs folder.segments = names at hnames
  generalize downs way = down at hway
  generalize ups way = up
  rcases Nat.lt_or_ge names.length up with hlt | hle
  · rw [iterate_climb_of_ge _ hnames (Nat.le_of_lt hlt), Nat.sub_eq_zero_of_le (Nat.le_of_lt hlt),
      List.drop_zero]
    cases hanchor : folder.isAbsolute with
    | true =>
      -- what is left to go up has no effect at the root
      simp only [if_true, iterate_climb_root, List.nil_append, true_or, true_and]
      constructor
      · rintro ⟨more, hne, -, hmore⟩
        exact ⟨more, hne, hmore⟩
      · rintro ⟨more, hne, hmore⟩
        exact ⟨more, hne, fun hmem => hway (hmore ▸ List.mem_append_right names hmem), hmore⟩
    | false =>
      -- the folder is left for good, since the path now begins with more levels up
      constructor
      · rintro ⟨-, more, -, hmore, heq⟩
        have hcount := congrArg (List.count "..") heq
        simp only [Bool.false_eq_true, if_false, iterate_climb_parents, List.count_append,
          List.count_replicate_self, List.count_eq_zero_of_not_mem hway,
          List.count_eq_zero_of_not_mem hnames, List.count_eq_zero_of_not_mem hmore] at hcount
        omega
      · rintro ⟨hkept, -⟩
        simp only [Bool.false_eq_true, false_or] at hkept
        omega
  · rw [iterate_climb_of_le _ hnames hle]
    have hcut : names = names.take (names.length - up) ++ names.drop (names.length - up) :=
      (List.take_append_drop _ names).symm
    constructor
    · rintro ⟨-, more, hne, -, heq⟩
      rw [List.append_assoc, List.append_assoc, List.append_cancel_left_eq] at heq
      refine ⟨Or.inr hle, more, hne, ?_⟩
      conv_rhs at heq => rw [hcut]
      rwa [List.append_assoc, List.append_cancel_left_eq] at heq
    · rintro ⟨-, more, hne, heq⟩
      refine ⟨rfl, more, hne, fun hmem => hway (heq ▸ List.mem_append_right _ hmem), ?_⟩
      rw [heq, List.append_assoc, ← List.append_assoc (List.take _ _), ← hcut, ← List.append_assoc]

/-- A way that goes down all along ends below every folder. -/
theorem leadsBelow_of_no_parent (folder : Path) (hne : way ≠ []) (h : ".." ∉ way) :
    folder.LeadsBelow way := by
  unfold LeadsBelow
  rw [ups_of_no_parent h, downs_of_no_parent h, Nat.sub_zero, List.drop_length]
  exact ⟨Or.inr (Nat.zero_le _), way, hne, rfl⟩

/-- A way that does not go down ends below no folder. -/
theorem not_leadsBelow_of_downs {folder : Path} (h : downs way = []) : ¬ folder.LeadsBelow way := by
  rintro ⟨-, more, hne, hdowns⟩
  rw [h] at hdowns
  exact hne (List.append_eq_nil_iff.mp hdowns.symm).2

end ProductionClosure.Path

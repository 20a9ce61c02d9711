import Mathlib.Data.List.Infix
import ProductionClosure.Proofs.FileSystem.Lookup

/-!
What writing changes. A lookup ends at a place whose folders are all there. When a file is made at
such a place or written to, all other places stay as they are.
-/

namespace ProductionClosure.FileSystem

/-- A place all of whose folders are there. -/
def Open (fs : FileSystem) (place : Place) : Prop :=
  ∀ above, above <+: place → above ≠ place → fs.entry? above = some .directory

/-- Puts an entry at a place instead of all that is there and below. -/
def replace (fs : FileSystem) (place : Place) (entry : Entry) : FileSystem :=
  { fs with entries := (place, entry) :: (fs.remove place).entries }

variable {fs after : FileSystem} {place other here : Place} {entry : Entry}

/-! ### Where lookups end -/

theorem open_root (fs : FileSystem) : fs.Open [] :=
  fun _ habove hne => absurd (List.prefix_nil.mp habove) hne

theorem Open.below (h : fs.Open here) (hfolder : fs.entry? here = some .directory) (name : String) :
    fs.Open (here ++ [name]) := by
  intro above habove hne
  rcases List.prefix_concat_iff.mp habove with heq | habove
  · exact absurd heq hne
  · by_cases heq : above = here
    · rw [heq]
      exact hfolder
    · exact h above habove heq

theorem Open.dropLast (h : fs.Open here) : fs.Open here.dropLast := by
  intro above habove hne
  refine h above (habove.trans (List.dropLast_prefix here)) fun heq => hne ?_
  subst heq
  exact (List.dropLast_prefix above).eq_of_length_le habove.length_le |>.symm

/-- A lookup ends at a place whose folders are there, with what stands at it. -/
theorem open_of_walk {followLast : Bool} {links : Nat} {components : List String}
    {found : Option Entry}
    (h : fs.walk followLast links here components = .ok (place, found)) (hhere : fs.Open here) :
    fs.Open place ∧ found = fs.entry? place := by
  fun_induction walk fs followLast links here components with
  | case1 =>
    cases h
    exact ⟨hhere, rfl⟩
  | case2 | case3 | case4 | case7 | case9 | case11 | case12 => cases h
  | case5 _ _ _ _ _ _ ih => exact ih h hhere
  | case6 _ _ _ _ _ ih => exact ih h hhere.dropLast
  | case8 _ here name hfolder _ _ _ _ hentry | case10 _ here name _ hfolder _ _ _ _ _ hentry =>
    rw [Except.ok.injEq, Prod.mk.injEq] at h
    obtain ⟨rfl, rfl⟩ := h
    exact ⟨hhere.below hfolder name, hentry.symm⟩
  | case13 _ _ _ _ _ _ _ _ _ _ _ _ _ ih =>
    refine ih h ?_
    split
    · exact fs.open_root
    · exact hhere
  | case14 _ here name _ hfolder _ _ _ _ _ _ _ ih => exact ih h (hhere.below hfolder name)

theorem open_of_locate {followLast : Bool} {path : String} {found : Option Entry}
    (h : fs.locate followLast path = .ok (place, found)) :
    fs.Open place ∧ found = fs.entry? place := by
  unfold locate at h
  split at h
  · cases h
  · split at h
    · cases h
    · split at h
      · cases h
      · exact open_of_walk h fs.open_root

/-! ### Putting entries -/

theorem lookup_filter (keep : Place → Bool) (hkeep : keep place = true)
    (entries : List (Place × Entry)) :
    (entries.filter fun entry => keep entry.1).lookup place = entries.lookup place := by
  induction entries with
  | nil => rfl
  | cons entry rest ih =>
    rw [List.filter_cons, List.lookup_cons]
    split
    · rw [List.lookup_cons, ih]
    · next hdropped =>
      have hother : (place == entry.1) = false := by
        refine beq_eq_false_iff_ne.mpr fun heq => hdropped ?_
        rw [← heq]
        exact hkeep
      rw [hother, ih]

theorem entry?_replace_self (hne : place ≠ []) :
    entry? (fs.replace place entry) place = some entry := by
  unfold entry?
  rw [if_neg hne, replace, List.lookup_cons, beq_self_eq_true]

theorem entry?_replace_off (h : ¬ place <+: other) :
    entry? (fs.replace place entry) other = fs.entry? other := by
  unfold entry?
  split
  · rfl
  · have hother : (other == place) = false :=
      beq_eq_false_iff_ne.mpr fun heq => h (heq ▸ List.prefix_rfl)
    rw [replace, List.lookup_cons, hother]
    refine lookup_filter (fun above => !place.isPrefixOf above) ?_ fs.entries
    rw [Bool.not_eq_true', Bool.eq_false_iff, ne_eq, List.isPrefixOf_iff_prefix]
    exact h

theorem mem_ancestors {above : Place} :
    above ∈ ancestors place ↔ above <+: place ∧ above ≠ place ∧ above ≠ [] := by
  unfold ancestors
  rw [List.mem_map]
  constructor
  · rintro ⟨count, hcount, rfl⟩
    have hshort : count < place.length := List.mem_range.mp (List.mem_of_mem_tail hcount)
    have hpos : count ≠ 0 := by
      rintro rfl
      rw [List.tail_range] at hcount
      simp at hcount
    have hlength : (place.take count).length = count := by
      rw [List.length_take]
      omega
    refine ⟨List.take_prefix _ _, fun heq => ?_, fun heq => ?_⟩
    · rw [heq] at hlength
      omega
    · rw [heq] at hlength
      exact hpos hlength.symm
  · rintro ⟨habove, hne, hroot⟩
    refine ⟨above.length, ?_, (List.prefix_iff_eq_take.mp habove).symm⟩
    have hshort : above.length < place.length :=
      Nat.lt_of_le_of_ne habove.length_le fun heq => hne (habove.eq_of_length heq)
    have hpos := List.length_pos_iff.mpr hroot
    rw [List.tail_range]
    simp
    omega

/-- Where all folders are there, no folder is added. -/
theorem withParents_of_open (h : fs.Open place) : fs.withParents place = fs := by
  have hnone : (ancestors place).filter (fun above => (fs.entry? above).isNone) = [] := by
    refine List.filter_eq_nil_iff.mpr fun above habove => ?_
    obtain ⟨hlead, hne, -⟩ := mem_ancestors.mp habove
    rw [h above hlead hne]
    exact Bool.false_ne_true
  rw [withParents, hnone]
  rfl

/-- Nothing but a folder is put in the place of what stands there. -/
theorem put_of_open (hopen : fs.Open place) (hne : place ≠ []) (hentry : entry ≠ .directory) :
    fs.put place entry = fs.replace place entry := by
  unfold put
  rw [if_neg hne]
  dsimp only
  rw [withParents_of_open hopen, if_neg fun h => hentry h.1]
  rfl

/-! ### Files opened for writing -/

/-- How a file is opened for writing: it is there, or it is made. -/
inductive Opens (fs : FileSystem) (place : Place) : FileSystem → Prop where
  | there {content : List UInt8} (h : fs.entry? place = some (.file content true)) :
      Opens fs place fs
  | made (h : fs.entry? place = none) : Opens fs place (fs.replace place (.file [] true))

def opened (fs : FileSystem) (place : Place) :
    Option Entry → Except FileProblem (Place × FileSystem)
  | some (.file _ true) => .ok (place, fs)
  | some (.file _ false) => .error .denied
  | some _ => .error .isDirectory
  | none => .ok (place, fs.replace place (.file [] true))

theorem openForAppending_of_locate {path : String} {found : Option Entry}
    (h : fs.locate true path = .ok (place, found)) :
    fs.openForAppending path = fs.opened place found := by
  obtain ⟨hopen, hfound⟩ := open_of_locate h
  unfold openForAppending
  rw [h]
  cases found with
  | none =>
    have hne : place ≠ [] := by
      rintro rfl
      cases hfound
    exact congrArg (fun after => Except.ok (place, after)) (put_of_open hopen hne nofun)
  | some entry =>
    cases entry with
    | file content readable => cases readable <;> rfl
    | directory | link => rfl

theorem openForAppending_eq_ok {path : String} :
    fs.openForAppending path = .ok (place, after) ↔
      ∃ found, fs.locate true path = .ok (place, found) ∧ Opens fs place after := by
  constructor
  · intro h
    cases hlocate : fs.locate true path with
    | error problem =>
      rw [openForAppending, hlocate] at h
      cases h
    | ok ending =>
      obtain ⟨reached, found⟩ := ending
      obtain ⟨-, hfound⟩ := open_of_locate hlocate
      rw [openForAppending_of_locate hlocate] at h
      unfold opened at h
      split at h
      · cases h
        exact ⟨_, rfl, .there hfound.symm⟩
      · cases h
      · cases h
      · cases h
        exact ⟨_, rfl, .made hfound.symm⟩
  · rintro ⟨found, hlocate, hopens⟩
    obtain ⟨-, rfl⟩ := open_of_locate hlocate
    rw [openForAppending_of_locate hlocate]
    cases hopens with
    | there hfile => rw [hfile, opened]
    | made hnone => rw [hnone, opened]

theorem Opens.ne_root (h : Opens fs place after) : place ≠ [] := by
  rintro rfl
  cases h with
  | there h | made h => cases h

/-- What is opened is a file. -/
theorem Opens.entry? (h : Opens fs place after) :
    ∃ content, after.entry? place = some (.file content true) := by
  have hne := h.ne_root
  cases h with
  | there h => exact ⟨_, h⟩
  | made => exact ⟨[], entry?_replace_self hne⟩

end ProductionClosure.FileSystem

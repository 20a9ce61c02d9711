import Mathlib
import ProductionClosure.Proofs.FileSystem.Outline
import ProductionClosure.Proofs.FileSystem.Writing
import ProductionClosure.Proofs.Table

/-!
Sound disks. A table of entries may say more than a disk can: two things at one place, or something
below a file. On a disk that says no such thing, writing to a file changes nothing but its content,
so real paths stay the same.
-/

namespace ProductionClosure.FileSystem

variable {fs after : FileSystem} {place other : Place} {entry : Entry}

/-! ### Sound disks -/

/-- A disk with one entry at a place, below folders only. -/
structure Sound (fs : FileSystem) : Prop where
  distinct : (fs.entries.map Prod.fst).Nodup
  folders : ∀ place entry, (place, entry) ∈ fs.entries → fs.Open place

theorem open_iff_ancestors :
    fs.Open place ↔ ∀ above ∈ ancestors place, fs.entry? above = some .directory := by
  constructor
  · intro h above habove
    obtain ⟨hlead, hne, -⟩ := mem_ancestors.mp habove
    exact h above hlead hne
  · intro h above hlead hne
    by_cases hroot : above = []
    · rw [hroot]
      rfl
    · exact h above (mem_ancestors.mpr ⟨hlead, hne, hroot⟩)

theorem sound_iff :
    fs.Sound ↔ (fs.entries.map Prod.fst).Nodup ∧
      ∀ entry ∈ fs.entries, ∀ above ∈ ancestors entry.1, fs.entry? above = some .directory :=
  ⟨fun h => ⟨h.distinct, fun entry hmem => open_iff_ancestors.mp (h.folders entry.1 entry.2 hmem)⟩,
    fun h => ⟨h.1, fun _ _ hmem => open_iff_ancestors.mpr (h.2 _ hmem)⟩⟩

instance : Decidable fs.Sound := decidable_of_iff _ sound_iff.symm

theorem isSome_entry?_of_mem (h : (place, entry) ∈ fs.entries) :
    (fs.entry? place).isSome = true := by
  unfold entry?
  split
  · rfl
  · exact Table.isSome_lookup_of_mem h

theorem Sound.open_of_entry? (h : fs.Sound) (hentry : fs.entry? place = some entry) :
    fs.Open place := by
  unfold entry? at hentry
  split at hentry
  · next hroot =>
    rw [hroot]
    exact fs.open_root
  · exact h.folders place entry (Table.mem_of_lookup hentry)

/-- Of an entry in the table nothing else is found at its place. -/
theorem Sound.eq_of_mem (h : fs.Sound) {found : Entry} (hmem : (place, entry) ∈ fs.entries)
    (hne : place ≠ []) (hentry : fs.entry? place = some found) : found = entry := by
  unfold entry? at hentry
  rw [if_neg hne] at hentry
  rw [(Table.lookup_eq_some_iff_mem h.distinct).mpr hmem] at hentry
  exact (Option.some.inj hentry).symm

theorem Sound.replace (h : fs.Sound) (hopen : fs.Open place) (entry : Entry) :
    (fs.replace place entry).Sound := by
  have hoff : ∀ other kept, (other, kept) ∈ (fs.remove place).entries → ¬ place <+: other := by
    intro other kept hmem
    have hkept := (List.mem_filter.mp hmem).2
    rwa [Bool.not_eq_true', Bool.eq_false_iff, ne_eq, List.isPrefixOf_iff_prefix] at hkept
  refine ⟨List.nodup_cons.mpr ⟨fun hmem => ?_, ?_⟩, fun other kept hmem => ?_⟩
  · obtain ⟨⟨other, kept⟩, hkept, rfl⟩ := List.mem_map.mp hmem
    exact hoff _ _ hkept List.prefix_rfl
  · exact h.distinct.sublist (List.filter_sublist.map Prod.fst)
  · rcases List.mem_cons.mp hmem with heq | hmem
    · cases heq
      intro above habove hne
      rw [entry?_replace_off fun hback =>
        hne (habove.eq_of_length_le hback.length_le)]
      exact hopen above habove hne
    · intro above habove hne
      rw [entry?_replace_off fun hback => hoff _ _ hmem (hback.trans habove)]
      exact h.folders other kept (List.mem_filter.mp hmem).1 above habove hne

/-! ### Real paths while files are written to -/

def linkSteps : Entry → Nat
  | .link target => 2 * (target.length + 2)
  | _ => 0

theorem realPathFuel_eq_sum (fs : FileSystem) (text : String) :
    fs.realPathFuel text =
      text.length + 2 + (fs.entries.map fun entry => linkSteps entry.2).sum := by
  unfold realPathFuel
  generalize text.length + 2 = bound
  induction fs.entries generalizing bound with
  | nil => rfl
  | cons entry rest ih =>
    obtain ⟨place, entry⟩ := entry
    rw [List.foldl_cons, ih, List.map_cons, List.sum_cons]
    cases entry with
    | link target => exact Nat.add_assoc _ _ _
    | directory | file => exact congrArg (bound + ·) (Nat.zero_add _).symm

theorem sum_linkSteps_filter {keep : Place × Entry → Bool} {entries : List (Place × Entry)}
    (h : ∀ entry ∈ entries, keep entry = false → linkSteps entry.2 = 0) :
    ((entries.filter keep).map fun entry => linkSteps entry.2).sum =
      (entries.map fun entry => linkSteps entry.2).sum := by
  induction entries with
  | nil => rfl
  | cons entry rest ih =>
    obtain ⟨hentry, hrest⟩ := List.forall_mem_cons.mp h
    rw [List.filter_cons, List.map_cons, List.sum_cons, ← ih hrest]
    split
    · rw [List.map_cons, List.sum_cons]
    · next hdropped => rw [hentry (by simpa using hdropped), Nat.zero_add]

/-- On a sound disk nothing but the content of a file changes when it is written to. -/
theorem Sound.sameShape_replace (h : fs.Sound) {content more : List UInt8} {readable : Bool}
    (hfile : fs.entry? place = some (.file content readable)) :
    SameShape fs (fs.replace place (.file more readable)) := by
  have hne : place ≠ [] := by
    rintro rfl
    cases hfile
  -- nothing stands below a file
  have hbelow : ∀ other found, fs.entry? other = some found → place <+: other → other = place := by
    intro other found hfound hlead
    by_contra hother
    have hfolder := h.open_of_entry? hfound place hlead (Ne.symm hother)
    rw [hfile] at hfolder
    cases hfolder
  refine ⟨⟨id, fun other => ?_⟩, rfl, fun text => ?_⟩
  · by_cases heq : other = place
    · rw [heq, entry?_replace_self hne, hfile]
      rfl
    · by_cases hlead : place <+: other
      · cases hfound : fs.entry? other with
        | some found => exact absurd (hbelow other found hfound hlead) heq
        | none =>
          cases hafter : entry? (fs.replace place (.file more readable)) other with
          | none => rfl
          | some found =>
            have hsound := h.replace (h.open_of_entry? hfile) (.file more readable)
            have hfolder := hsound.open_of_entry? hafter place hlead (Ne.symm heq)
            rw [entry?_replace_self hne] at hfolder
            cases hfolder
      · rw [entry?_replace_off hlead]
  · rw [realPathFuel_eq_sum, realPathFuel_eq_sum, FileSystem.replace, List.map_cons, List.sum_cons]
    show _ + (0 + _) = _
    rw [Nat.zero_add]
    refine congrArg (text.length + 2 + ·) (sum_linkSteps_filter fun entry hmem hdropped => ?_)
    obtain ⟨other, entry⟩ := entry
    rw [Bool.not_eq_false', List.isPrefixOf_iff_prefix] at hdropped
    obtain ⟨found, hfound⟩ := Option.isSome_iff_exists.mp (isSome_entry?_of_mem hmem)
    obtain rfl := hbelow other found hfound hdropped
    rw [← h.eq_of_mem hmem hne hfile]
    rfl

theorem Sound.sameShape_append (h : fs.Sound) (place : Place) (octets : List UInt8) :
    SameShape fs (fs.append place octets) := by
  unfold FileSystem.append
  split
  · next content readable hfile =>
    have hne : place ≠ [] := by
      rintro rfl
      cases hfile
    have hput : fs.put place (.file (content ++ octets) readable) =
        fs.replace place (.file (content ++ octets) readable) :=
      put_of_open (h.open_of_entry? hfile) hne nofun
    rw [hput]
    exact h.sameShape_replace hfile
  · exact sameShape_of_outline rfl

/-! ### Opening a file on sound disks, and on disks with other contents -/

theorem Opens.sound (h : Opens fs place after) (hopen : fs.Open place) (hsound : fs.Sound) :
    after.Sound := by
  cases h with
  | there => exact hsound
  | made => exact hsound.replace hopen _

theorem sound_of_outline {twin : FileSystem} (houtline : fs.outline = twin.outline)
    (h : fs.Sound) : twin.Sound := by
  have hplaces : ∀ files : FileSystem,
      files.outline.entries.map Prod.fst = files.entries.map Prod.fst := fun files => by
    rw [outline, List.map_map]
    rfl
  refine ⟨?_, fun place entry hmem above habove hne => ?_⟩
  · rw [← hplaces, ← houtline, hplaces]
    exact h.distinct
  · have houtlined : (place, entry.outline) ∈ fs.outline.entries := by
      rw [houtline]
      exact List.mem_map_of_mem hmem
    obtain ⟨⟨_, original⟩, horiginal, heq⟩ := List.mem_map.mp houtlined
    obtain rfl := congrArg Prod.fst heq
    exact (sameShape_of_outline houtline).agree.entry?_directory
      (h.folders _ original horiginal above habove hne)

theorem outline_replace (fs : FileSystem) (place : Place) (entry : Entry) :
    (fs.replace place entry).outline = fs.outline.replace place entry.outline := by
  simp only [FileSystem.replace, outline, remove, List.map_cons, List.filter_map]
  rfl

/-- On a disk with other contents of files the same file is opened. -/
theorem openForAppending_of_outline {twin : FileSystem} {path : String}
    (houtline : fs.outline = twin.outline) (h : fs.openForAppending path = .ok (place, after)) :
    ∃ after', twin.openForAppending path = .ok (place, after') ∧
      after.outline = after'.outline := by
  have hshape := sameShape_of_outline houtline
  obtain ⟨found, hlocate, hopens⟩ := openForAppending_eq_ok.mp h
  have hseen := hshape.agree.locate path (Or.inl hshape.folder) true
  rw [hlocate] at hseen
  obtain ⟨⟨reached, found'⟩, hlocate', heq⟩ := Outcome.map_eq_ok.mp hseen
  obtain rfl : reached = place := congrArg Prod.fst heq
  cases hopens with
  | there hfile =>
    obtain ⟨entry, hentry, hfile'⟩ := hshape.agree.entry?_some hfile
    obtain ⟨content, rfl⟩ := Entry.outline_eq_file.mp hfile'
    exact ⟨twin, openForAppending_eq_ok.mpr ⟨found', hlocate', .there hentry⟩, houtline⟩
  | made hnone =>
    refine ⟨twin.replace reached (.file [] true), openForAppending_eq_ok.mpr ⟨found', hlocate',
      .made (hshape.agree.entry?_none hnone)⟩, ?_⟩
    rw [outline_replace, outline_replace, houtline]

end ProductionClosure.FileSystem

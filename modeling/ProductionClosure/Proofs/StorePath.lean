import ProductionClosure.Proofs.Text.Pieces
import ProductionClosure.StorePath

/-!
Store paths taken apart. A store path leads to the store, names a package id there, and behind it
the package. The search for the name tries one position after the other; it finds the name exactly
when the segments come apart in this way at the first position with the shape of the store, and
there they come apart in one way only.
-/

namespace ProductionClosure.StorePath

variable {layout : StoreLayout} {segments lead name : List String} {package : String}

/-- The shape of the store: its two folders, a package id, the inner folder, and something more. -/
def HasShape (layout : StoreLayout) (segments : List String) : Prop :=
  ∃ package name, package ≠ "" ∧ name ≠ [] ∧
    segments = layout.linkFolder :: layout.marker :: package :: layout.linkFolder :: name

/-- The parts of a store path: what leads to the store, the package id, and the package name, at the
first position with the shape of the store. -/
structure Parts (layout : StoreLayout) (segments lead : List String) (package : String)
    (name : List String) : Prop where
  eq : segments =
    lead ++ layout.linkFolder :: layout.marker :: package :: layout.linkFolder :: name
  package_ne : package ≠ ""
  isName : isName name = true
  first : ∀ k < lead.length, ¬ HasShape layout (segments.drop k)

theorem ne_nil_of_isName (h : StorePath.isName name = true) : name ≠ [] := by
  rintro rfl
  cases h

theorem Parts.hasShape (h : Parts layout segments lead package name) :
    HasShape layout (segments.drop lead.length) := by
  refine ⟨package, name, h.package_ne, ne_nil_of_isName h.isName, ?_⟩
  rw [h.eq, List.drop_left]

/-- The first position decides all parts. -/
theorem Parts.unique {lead' name' : List String} {package' : String}
    (h : Parts layout segments lead package name)
    (h' : Parts layout segments lead' package' name') :
    lead = lead' ∧ package = package' ∧ name = name' := by
  have hlength : lead.length = lead'.length := by
    rcases Nat.lt_trichotomy lead.length lead'.length with hlt | heq | hgt
    · exact absurd h.hasShape (h'.first lead.length hlt)
    · exact heq
    · exact absurd h'.hasShape (h.first lead'.length hgt)
  obtain ⟨hlead, hrest⟩ := List.append_inj (h.eq.symm.trans h'.eq) hlength
  simp only [List.cons.injEq, true_and] at hrest
  exact ⟨hlead, hrest.1, hrest.2⟩

/-! ### The search position by position -/

theorem nameIn?_of_shape (hpackage : package ≠ "") (hname : name ≠ []) :
    nameIn? layout
        (layout.linkFolder :: layout.marker :: package :: layout.linkFolder :: name) =
      if isName name then some name else none := by
  cases name with
  | nil => exact absurd rfl hname
  | cons first more => rw [nameIn?, if_pos ⟨rfl, rfl, hpackage, rfl⟩]

theorem nameIn?_cons_of_not_shape {segment : String} (h : ¬ HasShape layout (segment :: segments)) :
    nameIn? layout (segment :: segments) = nameIn? layout segments := by
  match segments with
  -- the shape takes at least five segments
  | [] | [_] | [_, _] | [_, _, _] => simp [nameIn?]
  | marker :: package :: inner :: first :: more =>
    rw [nameIn?, if_neg]
    rintro ⟨rfl, rfl, hpackage, rfl⟩
    exact h ⟨package, first :: more, hpackage, List.cons_ne_nil first more, rfl⟩

theorem Parts.cons {segment : String} (hshape : ¬ HasShape layout (segment :: segments))
    (h : Parts layout segments lead package name) :
    Parts layout (segment :: segments) (segment :: lead) package name where
  eq := by rw [h.eq, List.cons_append]
  package_ne := h.package_ne
  isName := h.isName
  first k hk := by
    cases k with
    | zero => exact hshape
    | succ k => exact h.first k (Nat.lt_of_succ_lt_succ hk)

theorem exists_parts_of_nameIn? (h : nameIn? layout segments = some name) :
    ∃ lead package, Parts layout segments lead package name := by
  induction segments with
  | nil => cases h
  | cons segment rest ih =>
    by_cases hshape : HasShape layout (segment :: rest)
    · obtain ⟨package, found, hpackage, hfound, heq⟩ := hshape
      rw [heq, nameIn?_of_shape hpackage hfound] at h
      split at h
      · next hisName =>
        obtain rfl := Option.some.inj h
        exact ⟨[], package, heq, hpackage, hisName, fun k hk => absurd hk (Nat.not_lt_zero k)⟩
      · cases h
    · rw [nameIn?_cons_of_not_shape hshape] at h
      obtain ⟨lead, package, hparts⟩ := ih h
      exact ⟨segment :: lead, package, hparts.cons hshape⟩

theorem Parts.nameIn?_eq (h : Parts layout segments lead package name) :
    nameIn? layout segments = some name := by
  induction lead generalizing segments with
  | nil =>
    rw [h.eq, List.nil_append, nameIn?_of_shape h.package_ne (ne_nil_of_isName h.isName),
      if_pos h.isName]
  | cons segment lead ih =>
    have heq := h.eq
    rw [List.cons_append] at heq
    subst heq
    rw [nameIn?_cons_of_not_shape (h.first 0 (Nat.zero_lt_succ _))]
    refine ih ⟨rfl, h.package_ne, h.isName, ?_⟩
    intro k hk
    exact h.first (k + 1) (Nat.succ_lt_succ hk)

/-- The search finds a name exactly where the segments come apart. -/
theorem nameIn?_eq_some_iff :
    nameIn? layout segments = some name ↔
      ∃ lead package, Parts layout segments lead package name := by
  constructor
  · exact exists_parts_of_nameIn?
  · rintro ⟨lead, package, h⟩
    exact h.nameIn?_eq

/-! ### Segments of names -/

theorem no_slash_of_mem_segments {path segment : String}
    (h : segment ∈ StorePath.segments path) : '/' ∉ segment.toList := by
  have hkept : segment ∈ (Text.split isSeparator path).reverse :=
    (List.dropWhile_suffix _).subset (List.mem_reverse.mp h)
  intro hslash
  have hfalse := Text.not_separator_of_mem_split (List.mem_reverse.mp hkept) '/' hslash
  cases hfalse

theorem Parts.mem_segments (h : Parts layout segments lead package name) {segment : String}
    (hsegment : segment ∈ name) : segment ∈ segments := by
  rw [h.eq]
  simp [hsegment]

end ProductionClosure.StorePath

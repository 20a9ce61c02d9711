import Mathlib.Data.List.DropRight
import ProductionClosure.Proofs.StorePath

/-!
How paths are spelled. A text spells segments by a separator of either kind between any two of them,
and it spells only those between which it is cut. Empty segments at the end are not read, so neither
the kinds of the separators nor their number at the end play a part in what is read from a path.
-/

namespace ProductionClosure.StorePath

/-- The text writes the segments one after the other, with one separator between two of them. -/
inductive Spells : List String → List Char → Prop where
  | last {segment : String} (hsegment : ∀ c ∈ segment.toList, isSeparator c = false) :
      Spells [segment] segment.toList
  | more {segment : String} {separator : Char} {rest : List String} {text : List Char}
      (hsegment : ∀ c ∈ segment.toList, isSeparator c = false)
      (hseparator : isSeparator separator = true) (hrest : Spells rest text) :
      Spells (segment :: rest) (segment.toList ++ separator :: text)

/-- Two texts that differ in the kinds of their separators alone. -/
def SameButSeparators (path other : String) : Prop :=
  List.Forall₂ (fun c d => c = d ∨ isSeparator c = true ∧ isSeparator d = true) path.toList
    other.toList

variable {segments lead : List String} {text : List Char} {path other trailing : String}

/-! ### Spelling and cutting -/

theorem Spells.map_pieces (h : Spells segments text) :
    (Text.pieces isSeparator text).map String.ofList = segments := by
  induction h with
  | last hsegment =>
    rw [Text.pieces_of_no_separator hsegment, List.map_singleton, String.ofList_toList]
  | more hsegment hseparator _ ih =>
    rw [Text.pieces_append_separator hsegment hseparator, List.map_cons, String.ofList_toList, ih]

theorem Spells.split_eq (h : Spells segments path.toList) :
    Text.split isSeparator path = segments := h.map_pieces

/-- A character in front of a text lengthens its first segment. -/
theorem Spells.pushFront {c : Char} {piece : List Char} {rest : List String}
    (hc : isSeparator c = false) (h : Spells (String.ofList piece :: rest) text) :
    Spells (String.ofList (c :: piece) :: rest) (c :: text) := by
  have hfree : (∀ d ∈ (String.ofList piece).toList, isSeparator d = false) →
      ∀ d ∈ (String.ofList (c :: piece)).toList, isSeparator d = false := by
    intro hpiece
    rw [String.toList_ofList] at hpiece ⊢
    exact List.forall_mem_cons.mpr ⟨hc, hpiece⟩
  cases h with
  | last hsegment =>
    have hlast := Spells.last (hfree hsegment)
    rwa [String.toList_ofList] at hlast ⊢
  | more hsegment hseparator hrest =>
    have hmore := Spells.more (hfree hsegment) hseparator hrest
    rwa [String.toList_ofList] at hmore ⊢

theorem spells_pieces (text : List Char) :
    Spells ((Text.pieces isSeparator text).map String.ofList) text := by
  have hempty : ∀ c ∈ "".toList, isSeparator c = false :=
    fun c hc => absurd hc List.not_mem_nil
  induction text with
  | nil => exact .last hempty
  | cons c rest ih =>
    rw [Text.pieces]
    split
    · next hc => exact .more hempty hc ih
    · next hc =>
      cases hcut : Text.pieces isSeparator rest with
      | nil => exact absurd hcut (Text.pieces_ne_nil isSeparator rest)
      | cons piece more =>
        rw [hcut] at ih
        exact ih.pushFront (Bool.eq_false_iff.mpr hc)

/-- Every text spells its pieces. -/
theorem spells_split (path : String) : Spells (Text.split isSeparator path) path.toList :=
  spells_pieces path.toList

/-! ### What is read -/

theorem segments_eq_rdropWhile (path : String) :
    StorePath.segments path = (Text.split isSeparator path).rdropWhile (· = "") := rfl

/-- The pieces are what is read, and empty ones behind it. -/
theorem exists_split_eq (path : String) :
    ∃ dropped, Text.split isSeparator path =
      StorePath.segments path ++ List.replicate dropped "" := by
  rw [segments_eq_rdropWhile]
  induction Text.split isSeparator path using List.reverseRecOn with
  | nil => exact ⟨0, rfl⟩
  | append_singleton pieces piece ih =>
    rw [List.rdropWhile_concat]
    split
    · next hempty =>
      obtain ⟨dropped, heq⟩ := ih
      refine ⟨dropped + 1, ?_⟩
      rw [List.replicate_succ', ← List.append_assoc, ← heq, of_decide_eq_true hempty]
    · exact ⟨0, (List.append_nil _).symm⟩

theorem getLast?_segments (path : String) : (StorePath.segments path).getLast? ≠ some "" := by
  intro hlast
  have hne : StorePath.segments path ≠ [] := by
    intro hnil
    rw [hnil] at hlast
    cases hlast
  refine List.rdropWhile_last_not (· = "") (Text.split isSeparator path) hne ?_
  exact decide_eq_true ((List.getLast_eq_iff_getLast?_eq_some hne).mpr hlast)

/-- Pieces without an empty one at the end are read in front of any number of empty ones. -/
theorem segments_of_split {dropped : Nat} (hlast : segments.getLast? ≠ some "")
    (hsplit : Text.split isSeparator path = segments ++ List.replicate dropped "") :
    StorePath.segments path = segments := by
  rw [segments_eq_rdropWhile, hsplit]
  clear hsplit
  induction dropped with
  | zero =>
    rw [List.replicate_zero, List.append_nil, List.rdropWhile_eq_self_iff]
    intro hne hempty
    exact hlast ((List.getLast_eq_iff_getLast?_eq_some hne).mp (of_decide_eq_true hempty))
  | succ dropped ih =>
    rw [List.replicate_succ', ← List.append_assoc, List.rdropWhile_concat_pos _ _ _ rfl, ih]

theorem Spells.segments_eq (h : Spells segments path.toList)
    (hlast : segments.getLast? ≠ some "") : StorePath.segments path = segments := by
  have hsplit : Text.split isSeparator path = segments ++ List.replicate 0 "" := by
    rw [h.split_eq, List.replicate_zero, List.append_nil]
  exact segments_of_split hlast hsplit

theorem segments_append_separators (h : ∀ c ∈ trailing.toList, isSeparator c = true) :
    StorePath.segments (path ++ trailing) = StorePath.segments path := by
  obtain ⟨dropped, hsplit⟩ := exists_split_eq path
  have hempty : (List.replicate trailing.toList.length ([] : List Char)).map String.ofList =
      List.replicate trailing.toList.length "" := List.map_replicate
  have hlonger : Text.split isSeparator (path ++ trailing) =
      StorePath.segments path ++ List.replicate (dropped + trailing.toList.length) "" := by
    rw [Text.split] at hsplit ⊢
    rw [String.toList_append, Text.pieces_append_separators h, List.map_append, hsplit, hempty,
      List.append_assoc, List.replicate_append_replicate]
  exact segments_of_split (getLast?_segments path) hlonger

theorem SameButSeparators.segments_eq (h : SameButSeparators path other) :
    StorePath.segments path = StorePath.segments other := by
  unfold StorePath.segments Text.split
  rw [Text.pieces_eq_of_forall₂ h]

end ProductionClosure.StorePath

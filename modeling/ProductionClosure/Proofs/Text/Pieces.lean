import Mathlib.Data.List.Forall2
import ProductionClosure.Text.Pieces

/-!
Cutting at separators and joining. No piece holds a separator, a text without one is its own only
piece, a separator cuts the text around it in two, and pieces without slashes come back from the
text that joins them with slashes.
-/

namespace ProductionClosure.Text

variable {isSeparator : Char → Bool}

theorem not_separator_of_mem_pieces {cs piece : List Char}
    (hpiece : piece ∈ pieces isSeparator cs) : ∀ c ∈ piece, isSeparator c = false := by
  induction cs generalizing piece with
  | nil =>
    obtain rfl := List.mem_singleton.mp hpiece
    intro c hc
    exact absurd hc List.not_mem_nil
  | cons first rest ih =>
    rw [pieces] at hpiece
    split at hpiece
    · rcases List.mem_cons.mp hpiece with rfl | hrest
      · intro c hc
        exact absurd hc List.not_mem_nil
      · exact ih hrest
    · next hfirst =>
      cases hcut : pieces isSeparator rest with
      | nil => exact absurd hcut (pieces_ne_nil isSeparator rest)
      | cons head tail =>
        rw [hcut] at hpiece ih
        rcases List.mem_cons.mp hpiece with rfl | htail
        · intro c hc
          rcases List.mem_cons.mp hc with rfl | hc
          · exact Bool.eq_false_iff.mpr hfirst
          · exact ih List.mem_cons_self c hc
        · exact ih (List.mem_cons_of_mem _ htail)

theorem pieces_of_no_separator {cs : List Char} (h : ∀ c ∈ cs, isSeparator c = false) :
    pieces isSeparator cs = [cs] := by
  induction cs with
  | nil => rfl
  | cons first rest ih =>
    rw [List.forall_mem_cons] at h
    rw [pieces, if_neg (Bool.eq_false_iff.mp h.1), ih h.2]
    rfl

/-- A separator cuts a text in two, whatever stands around it. -/
theorem pieces_append_cons {separator : Char} (hseparator : isSeparator separator = true)
    (cs rest : List Char) :
    pieces isSeparator (cs ++ separator :: rest) =
      pieces isSeparator cs ++ pieces isSeparator rest := by
  induction cs with
  | nil => simp [pieces, hseparator]
  | cons first more ih =>
    rw [List.cons_append, pieces, pieces, ih]
    split
    · rfl
    · cases hcut : pieces isSeparator more with
      | nil => exact absurd hcut (pieces_ne_nil isSeparator more)
      | cons piece others => rfl

/-- A separator behind a piece ends it. -/
theorem pieces_append_separator {piece : List Char} {separator : Char}
    (h : ∀ c ∈ piece, isSeparator c = false) (hseparator : isSeparator separator = true)
    (rest : List Char) :
    pieces isSeparator (piece ++ separator :: rest) = piece :: pieces isSeparator rest := by
  rw [pieces_append_cons hseparator, pieces_of_no_separator h]
  rfl

theorem pieces_of_separators {separators : List Char}
    (h : ∀ c ∈ separators, isSeparator c = true) :
    pieces isSeparator separators = List.replicate (separators.length + 1) [] := by
  induction separators with
  | nil => rfl
  | cons first rest ih =>
    rw [List.forall_mem_cons] at h
    rw [pieces, if_pos h.1, ih h.2, List.length_cons, ← List.replicate_succ]

/-- Separators at the end add as many empty pieces. -/
theorem pieces_append_separators {separators : List Char}
    (h : ∀ c ∈ separators, isSeparator c = true) (cs : List Char) :
    pieces isSeparator (cs ++ separators) =
      pieces isSeparator cs ++ List.replicate separators.length [] := by
  induction cs with
  | nil =>
    rw [List.nil_append, pieces_of_separators h, List.replicate_succ]
    rfl
  | cons first rest ih =>
    rw [List.cons_append, pieces, pieces, ih]
    split
    · rfl
    · cases hcut : pieces isSeparator rest with
      | nil => exact absurd hcut (pieces_ne_nil isSeparator rest)
      | cons piece more => rfl

/-- Which separator stands between two pieces plays no part. -/
theorem pieces_eq_of_forall₂ {cs ds : List Char}
    (h : List.Forall₂ (fun c d => c = d ∨ isSeparator c = true ∧ isSeparator d = true) cs ds) :
    pieces isSeparator cs = pieces isSeparator ds := by
  induction h with
  | nil => rfl
  | cons hfirst _ ih =>
    rcases hfirst with rfl | ⟨hc, hd⟩
    · rw [pieces, pieces, ih]
    · rw [pieces, pieces, if_pos hc, if_pos hd, ih]

/-! ### Strings -/

theorem not_separator_of_mem_split {s piece : String} (h : piece ∈ split isSeparator s) :
    ∀ c ∈ piece.toList, isSeparator c = false := by
  obtain ⟨cs, hcs, rfl⟩ := List.mem_map.mp h
  rw [String.toList_ofList]
  exact not_separator_of_mem_pieces hcs

theorem split_of_no_separator {s : String} (h : ∀ c ∈ s.toList, isSeparator c = false) :
    split isSeparator s = [s] := by
  rw [split, pieces_of_no_separator h, List.map_singleton, String.ofList_toList]

theorem split_append_slash (hslash : isSeparator '/' = true) (front rest : String) :
    split isSeparator (front ++ "/" ++ rest) =
      split isSeparator front ++ split isSeparator rest := by
  have htext : (front ++ "/" ++ rest).toList = front.toList ++ '/' :: rest.toList := by
    simp [String.toList_append]
  rw [split, htext, pieces_append_cons hslash, List.map_append]
  rfl

theorem no_slash_of_mem_splitSlash {s piece : String} (h : piece ∈ splitSlash s) :
    '/' ∉ piece.toList :=
  fun hslash => absurd (not_separator_of_mem_split h '/' hslash) (by decide)

theorem not_slash_of_no_slash {cs : List Char} (h : '/' ∉ cs) :
    ∀ c ∈ cs, decide (c = '/') = false := by
  intro c hc
  refine decide_eq_false ?_
  rintro rfl
  exact h hc

theorem splitSlash_of_no_slash {s : String} (h : '/' ∉ s.toList) : splitSlash s = [s] :=
  split_of_no_separator (not_slash_of_no_slash h)

theorem splitSlash_append_slash {s : String} (h : '/' ∉ s.toList) (rest : String) :
    splitSlash (s ++ "/" ++ rest) = s :: splitSlash rest := by
  have hslash : decide ('/' = '/') = true := decide_eq_true rfl
  rw [splitSlash, split_append_slash hslash, split_of_no_separator (not_slash_of_no_slash h)]
  rfl

theorem split_intercalate_slash (hslash : isSeparator '/' = true) {parts : List String}
    (hne : parts ≠ []) (h : ∀ part ∈ parts, ∀ c ∈ part.toList, isSeparator c = false) :
    split isSeparator (String.intercalate "/" parts) = parts := by
  induction parts with
  | nil => exact absurd rfl hne
  | cons part rest ih =>
    rw [List.forall_mem_cons] at h
    cases rest with
    | nil => rw [String.intercalate_singleton, split_of_no_separator h.1]
    | cons next more =>
      rw [String.intercalate_cons_cons, split_append_slash hslash, split_of_no_separator h.1,
        ih (List.cons_ne_nil next more) h.2]
      rfl

theorem splitSlash_intercalate {parts : List String} (hne : parts ≠ [])
    (h : ∀ part ∈ parts, '/' ∉ part.toList) :
    splitSlash (String.intercalate "/" parts) = parts := by
  have hslash : decide ('/' = '/') = true := decide_eq_true rfl
  exact split_intercalate_slash hslash hne fun part hpart => not_slash_of_no_slash (h part hpart)

end ProductionClosure.Text

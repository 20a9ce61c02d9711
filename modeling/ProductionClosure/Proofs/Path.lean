import Mathlib.Data.List.Induction
import ProductionClosure.Path
import ProductionClosure.Proofs.Text.Pieces

/-!
Paths and their texts. A name without slashes is a path of one segment, or of none if it is a dot.
Below one folder, different segments that can be named have different texts, so that a text tells
which of them is meant.
-/

namespace ProductionClosure.Path

/-- Segments as they are read from a text: neither empty nor a dot, and without slashes. -/
def Named (segments : List String) : Prop :=
  ∀ segment ∈ segments, isSegment segment = true ∧ '/' ∉ segment.toList

theorem isSegment_eq_true {segment : String} :
    isSegment segment = true ↔ segment ≠ "" ∧ segment ≠ "." := by
  simp [isSegment]

theorem Named.append {front back : List String} (hfront : Named front) (hback : Named back) :
    Named (front ++ back) := by
  intro segment hsegment
  exact (List.mem_append.mp hsegment).elim (hfront segment) (hback segment)

theorem Named.of_subset {segments some : List String} (h : Named segments)
    (hsub : some ⊆ segments) : Named some :=
  fun segment hsegment => h segment (hsub hsegment)

theorem named_parent : Named [".."] := by
  intro segment hsegment
  obtain rfl := List.mem_singleton.mp hsegment
  decide

theorem named_ofString (s : String) : Named (ofString s).segments := by
  intro segment hsegment
  obtain ⟨hpiece, hproper⟩ := List.mem_filter.mp hsegment
  exact ⟨hproper, Text.no_slash_of_mem_splitSlash hpiece⟩

/-- Cancelling `..` leaves segments as they are read from a text. -/
theorem Named.collapse {absolute : Bool} {segments : List String} (h : Named segments) :
    Named (Path.collapse absolute segments) := by
  induction segments using List.reverseRecOn with
  | nil => exact h
  | append_singleton segments segment ih =>
    have hdone := ih (h.of_subset (List.subset_append_left _ _))
    have hsegment := h.of_subset (List.subset_append_right segments [segment])
    simp only [Path.collapse, List.foldl_append, List.foldl_cons, List.foldl_nil] at hdone ⊢
    split
    · split
      · split
        · exact hdone
        · exact hdone.append named_parent
      · exact hdone.of_subset (List.dropLast_subset _)
    · exact hdone.append hsegment

theorem anchorOf_cons_of_ne {c : Char} {cs : List Char} (h : c ≠ '/') :
    anchorOf (c :: cs) = .relative := by
  unfold anchorOf
  split
  · next heq => exact absurd (List.cons.inj heq).1 h
  · next heq => exact absurd (List.cons.inj heq).1 h
  · next heq => exact absurd (List.cons.inj heq).1 h
  · rfl

theorem anchorOf_of_no_slash {cs : List Char} (h : '/' ∉ cs) : anchorOf cs = .relative := by
  cases cs with
  | nil => rfl
  | cons first rest =>
    rw [List.mem_cons, not_or] at h
    exact anchorOf_cons_of_ne (Ne.symm h.1)

theorem ofString_of_no_slash {name : String} (h : '/' ∉ name.toList) :
    ofString name = ⟨.relative, [name].filter isSegment⟩ := by
  rw [ofString, anchorOf_of_no_slash h, Text.splitSlash_of_no_slash h]

/-- Names joined by slashes do not begin with a slash, unless the first of them is empty. -/
theorem exists_intercalate_eq_cons {first : String} (hfirst : first ≠ "")
    (hslash : '/' ∉ first.toList) (more : List String) :
    ∃ c cs, (String.intercalate "/" (first :: more)).toList = c :: cs ∧ c ≠ '/' := by
  obtain ⟨rest, htext⟩ : ∃ rest, (String.intercalate "/" (first :: more)).toList =
      first.toList ++ rest := by
    cases more with
    | nil => exact ⟨[], by rw [String.intercalate_singleton, List.append_nil]⟩
    | cons next others =>
      rw [String.intercalate_cons_cons, String.append_assoc, String.toList_append]
      exact ⟨_, rfl⟩
  cases hchars : first.toList with
  | nil => exact absurd (String.toList_eq_nil_iff.mp hchars) hfirst
  | cons c cs =>
    rw [hchars, List.mem_cons, not_or] at hslash
    exact ⟨c, cs ++ rest, by rw [htext, hchars, List.cons_append], Ne.symm hslash.1⟩

/-- Names joined by slashes are a relative path, unless the first of them is empty. -/
theorem ofString_intercalate {first : String} {more : List String} (hfirst : first ≠ "")
    (h : ∀ name ∈ first :: more, '/' ∉ name.toList) :
    ofString (String.intercalate "/" (first :: more)) =
      ⟨.relative, (first :: more).filter isSegment⟩ := by
  obtain ⟨c, cs, htext, hc⟩ := exists_intercalate_eq_cons hfirst (h first List.mem_cons_self) more
  rw [ofString, htext, anchorOf_cons_of_ne hc,
    Text.splitSlash_intercalate (List.cons_ne_nil first more) h]

/-- Joining with a name without slashes adds it as a segment, unless it is empty or a dot. -/
theorem div_of_no_slash (path : Path) {name : String} (h : '/' ∉ name.toList) :
    path / ofString name = { path with segments := path.segments ++ [name].filter isSegment } := by
  rw [ofString_of_no_slash h]
  rfl

theorem isAbsolute_of_slash (name : String) : (ofString ("/" ++ name)).isAbsolute = true := by
  have hlist : ("/" ++ name).toList = '/' :: name.toList := by
    rw [String.toList_append]
    rfl
  have hanchor : anchorOf ('/' :: name.toList) ≠ .relative := by
    unfold anchorOf
    split
    · exact Anchor.noConfusion
    · exact Anchor.noConfusion
    · exact Anchor.noConfusion
    · next hother => exact absurd rfl (hother name.toList)
  unfold isAbsolute ofString
  rw [hlist]
  exact decide_eq_true hanchor

/-! ### Texts of paths with one beginning -/

theorem toString_of_segments {path : Path} (h : path.segments ≠ []) :
    path.toString = path.anchor.text ++ String.intercalate "/" path.segments := by
  unfold toString
  rw [if_neg fun hempty => h hempty.2]

theorem splitSlash_slash (s : String) : Text.splitSlash ("/" ++ s) = "" :: Text.splitSlash s := by
  have htext := Text.splitSlash_append_slash (s := "") (by decide) s
  rwa [String.empty_append] at htext

/-- The text of a path is read as that path. -/
theorem ofString_toString {path : Path} (h : Named path.segments) :
    ofString path.toString = path := by
  obtain ⟨anchor, segments⟩ := path
  cases segments with
  | nil => cases anchor <;> decide
  | cons first more =>
    have hfirst := isSegment_eq_true.mp (h first List.mem_cons_self).1
    have hslash : ∀ name ∈ first :: more, '/' ∉ name.toList := fun name hname => (h name hname).2
    have hkept : (first :: more).filter isSegment = first :: more :=
      List.filter_eq_self.mpr fun name hname => (h name hname).1
    have hpieces := Text.splitSlash_intercalate (List.cons_ne_nil first more) hslash
    obtain ⟨c, cs, htext, hc⟩ :=
      exists_intercalate_eq_cons hfirst.1 (hslash first List.mem_cons_self) more
    rw [toString_of_segments (List.cons_ne_nil first more)]
    cases anchor with
    | relative =>
      show ofString ("" ++ _) = _
      rw [String.empty_append, ofString_intercalate hfirst.1 hslash, hkept]
    | root =>
      have hanchor : anchorOf ("/" ++ String.intercalate "/" (first :: more)).toList = .root := by
        rw [String.toList_append, htext]
        show anchorOf ('/' :: c :: cs) = _
        simp [anchorOf, hc]
      show ofString ("/" ++ _) = _
      rw [ofString, hanchor, splitSlash_slash, hpieces]
      exact congrArg (Path.mk .root) hkept
    | doubleRoot =>
      have hanchor : anchorOf ("/" ++ ("/" ++ String.intercalate "/" (first :: more))).toList =
          .doubleRoot := by
        rw [String.toList_append, String.toList_append, htext]
        show anchorOf ('/' :: '/' :: c :: cs) = _
        simp [anchorOf, hc]
      show ofString ("/" ++ "/" ++ _) = _
      rw [String.append_assoc, ofString, hanchor, splitSlash_slash, splitSlash_slash, hpieces]
      exact congrArg (Path.mk .doubleRoot) hkept

theorem intercalate_inj {left right : List String} (hleft : Named left) (hright : Named right)
    (hne : left ≠ []) (hne' : right ≠ [])
    (h : String.intercalate "/" left = String.intercalate "/" right) : left = right := by
  rw [← Text.splitSlash_intercalate hne fun part hpart => (hleft part hpart).2, h,
    Text.splitSlash_intercalate hne' fun part hpart => (hright part hpart).2]

/-- Going further down changes the text. -/
theorem toString_append_ne {anchor : Anchor} {lead more : List String} (hmore : Named more)
    (hne : more ≠ []) : toString ⟨anchor, lead ++ more⟩ ≠ toString ⟨anchor, lead⟩ := by
  intro h
  rw [toString_of_segments (List.append_ne_nil_of_right_ne_nil lead hne)] at h
  have hpieces : Text.splitSlash (String.intercalate "/" more) = more :=
    Text.splitSlash_intercalate hne fun part hpart => (hmore part hpart).2
  by_cases hlead : lead = []
  · subst hlead
    rw [List.nil_append] at h
    -- the folder itself is written as its anchor, a relative one as a dot
    have htext : String.intercalate "/" more = "" ∨ String.intercalate "/" more = "." := by
      cases anchor with
      | relative => exact Or.inr (by simpa [toString, Anchor.text] using h)
      | root => exact Or.inl (by simpa [toString, Anchor.text] using h)
      | doubleRoot => exact Or.inl (by simpa [toString, Anchor.text] using h)
    rcases htext with htext | htext
    · have hsegment : "" ∈ more := by
        rw [← hpieces, htext]
        decide
      exact (isSegment_eq_true.mp (hmore "" hsegment).1).1 rfl
    · have hsegment : "." ∈ more := by
        rw [← hpieces, htext]
        decide
      exact (isSegment_eq_true.mp (hmore "." hsegment).1).2 rfl
  · rw [toString_of_segments hlead, String.append_right_inj,
      String.intercalate_append_of_ne_nil hlead hne, String.append_assoc,
      String.append_eq_left_iff, String.append_eq_empty_iff] at h
    exact absurd h.1 (by decide)

/-- Below one folder a text tells the segments. -/
theorem toString_append_inj {anchor : Anchor} {lead left right : List String}
    (hleft : Named left) (hright : Named right)
    (h : toString ⟨anchor, lead ++ left⟩ = toString ⟨anchor, lead ++ right⟩) : left = right := by
  by_cases hl : left = []
  · by_cases hr : right = []
    · rw [hl, hr]
    · rw [hl, List.append_nil] at h
      exact absurd h.symm (toString_append_ne hright hr)
  · by_cases hr : right = []
    · rw [hr, List.append_nil] at h
      exact absurd h (toString_append_ne hleft hl)
    · rw [toString_of_segments (List.append_ne_nil_of_right_ne_nil lead hl),
        toString_of_segments (List.append_ne_nil_of_right_ne_nil lead hr),
        String.append_right_inj] at h
      refine intercalate_inj hleft hright hl hr ?_
      by_cases hlead : lead = []
      · rw [hlead] at h
        exact h
      · rw [String.intercalate_append_of_ne_nil hlead hl,
          String.intercalate_append_of_ne_nil hlead hr, String.append_right_inj] at h
        exact h

end ProductionClosure.Path

import ProductionClosure.Proofs.Hoisting.StandIn
import ProductionClosure.Proofs.Path
import ProductionClosure.Proofs.StorePath

/-!
When two store paths get one text. The package id plays no part in the replacement, only the package
name does, so all versions of a package share one link and each of them is replaced by it. The other
way to one text is a link that is itself written like the second path. A name is the same link as
another when they differ in dots alone, since a dot adds nothing to a path.
-/

namespace ProductionClosure

/-- The text of the link that stands for a path. -/
def HoistedTo (files : FileSystem) (layout : StoreLayout) (folder : Path) (path text : String) :
    Prop :=
  ∃ link, linkFor? folder layout path = some link ∧ files.found link = true ∧
    link.toString = text

/-- Two paths, each seen from a folder, come to one text. -/
inductive Collapse (files : FileSystem) (layout : StoreLayout) (folder : Path) (path : String)
    (otherFolder : Path) (other : String) : Prop where
  | shared {text : String} (h : HoistedTo files layout folder path text)
      (hother : HoistedTo files layout otherFolder other text)
  | ontoOther (h : HoistedTo files layout folder path other)
      (hstays : ∀ text, ¬ HoistedTo files layout otherFolder other text)
  | ontoFirst (hstays : ∀ text, ¬ HoistedTo files layout folder path text)
      (hother : HoistedTo files layout otherFolder other path)

variable {files : FileSystem} {layout : StoreLayout} {folder otherFolder : Path}
  {path other text : String}

theorem standIn_of_hoisted (h : HoistedTo files layout folder path text) :
    standIn files folder layout path = text := by
  obtain ⟨link, hlink, hfound, rfl⟩ := h
  exact standIn_of_found hlink hfound

theorem standIn_of_stays (h : ∀ text, ¬ HoistedTo files layout folder path text) :
    standIn files folder layout path = path := by
  cases hlink : linkFor? folder layout path with
  | none => exact standIn_of_no_link hlink
  | some link =>
    cases hfound : files.found link with
    | false => exact standIn_of_not_found hlink hfound
    | true => exact absurd ⟨link, hlink, hfound, rfl⟩ (h link.toString)

/-- Different paths come to one text in the listed ways only. -/
theorem standIn_eq_iff (hne : path ≠ other) :
    standIn files folder layout path = standIn files otherFolder layout other ↔
      Collapse files layout folder path otherFolder other := by
  constructor
  · -- either path is replaced or stays; only where both stay would they have to be equal
    intro heq
    by_cases hfirst : ∃ text, HoistedTo files layout folder path text
    · obtain ⟨text, htext⟩ := hfirst
      rw [standIn_of_hoisted htext] at heq
      by_cases hsecond : ∃ text, HoistedTo files layout otherFolder other text
      · obtain ⟨text', htext'⟩ := hsecond
        rw [standIn_of_hoisted htext'] at heq
        exact .shared htext (heq ▸ htext')
      · have hstays := not_exists.mp hsecond
        rw [standIn_of_stays hstays] at heq
        exact .ontoOther (heq ▸ htext) hstays
    · have hstays := not_exists.mp hfirst
      rw [standIn_of_stays hstays] at heq
      by_cases hsecond : ∃ text, HoistedTo files layout otherFolder other text
      · obtain ⟨text', htext'⟩ := hsecond
        rw [standIn_of_hoisted htext'] at heq
        exact .ontoFirst hstays (heq ▸ htext')
      · rw [standIn_of_stays (not_exists.mp hsecond)] at heq
        exact absurd heq hne
  · intro h
    cases h with
    | shared htext htext' => rw [standIn_of_hoisted htext, standIn_of_hoisted htext']
    | ontoOther htext hstays => rw [standIn_of_hoisted htext, standIn_of_stays hstays]
    | ontoFirst hstays htext => rw [standIn_of_stays hstays, standIn_of_hoisted htext]

/-! ### Names that make one link -/

section Names

variable {lead name : List String} {package : String}

/-- Going down by names without slashes adds those that are segments. -/
theorem linkOf_eq (root : Path) (h : ∀ segment ∈ name, '/' ∉ segment.toList) :
    linkOf root name = { root with segments := root.segments ++ name.filter Path.isSegment } := by
  induction name generalizing root with
  | nil => rw [List.filter_nil, List.append_nil]; rfl
  | cons segment rest ih =>
    obtain ⟨hsegment, hrest⟩ := List.forall_mem_cons.mp h
    have hsplit : (segment :: rest).filter Path.isSegment =
        [segment].filter Path.isSegment ++ rest.filter Path.isSegment :=
      List.filter_append [segment] rest
    show linkOf (root / Path.ofString segment) rest = _
    rw [Path.div_of_no_slash root hsegment, ih _ hrest, hsplit, List.append_assoc]

theorem named_filter (h : ∀ segment ∈ name, '/' ∉ segment.toList) :
    Path.Named (name.filter Path.isSegment) := by
  intro segment hsegment
  obtain ⟨hmem, hproper⟩ := List.mem_filter.mp hsegment
  exact ⟨hproper, h segment hmem⟩

/-- Below one folder, the text of a link tells its name up to dots. -/
theorem toString_linkOf_eq_iff {name' : List String} (root : Path)
    (h : ∀ segment ∈ name, '/' ∉ segment.toList)
    (h' : ∀ segment ∈ name', '/' ∉ segment.toList) :
    (linkOf root name).toString = (linkOf root name').toString ↔
      name.filter Path.isSegment = name'.filter Path.isSegment := by
  rw [linkOf_eq root h, linkOf_eq root h']
  constructor
  · exact Path.toString_append_inj (named_filter h) (named_filter h')
  · intro heq
    rw [heq]

theorem linkFor?_of_parts
    (h : StorePath.Parts layout (StorePath.segments path) lead package name) :
    linkFor? folder layout path = some (linkOf (linkRoot folder layout) name) := by
  rw [linkFor?, StorePath.packageName?, h.nameIn?_eq]
  rfl

theorem no_slash_of_parts
    (h : StorePath.Parts layout (StorePath.segments path) lead package name) :
    ∀ segment ∈ name, '/' ∉ segment.toList :=
  fun _ hsegment => StorePath.no_slash_of_mem_segments (h.mem_segments hsegment)

/-- In one folder, two store paths share a link when it exists and their names make the same one. -/
theorem exists_shared_iff {lead' name' : List String} {package' : String}
    (h : StorePath.Parts layout (StorePath.segments path) lead package name)
    (h' : StorePath.Parts layout (StorePath.segments other) lead' package' name') :
    (∃ text, HoistedTo files layout folder path text ∧
        HoistedTo files layout folder other text) ↔
      files.found (linkOf (linkRoot folder layout) name) = true ∧
        name.filter Path.isSegment = name'.filter Path.isSegment := by
  have hnames := toString_linkOf_eq_iff (linkRoot folder layout) (no_slash_of_parts h)
    (no_slash_of_parts h')
  constructor
  · rintro ⟨_, ⟨link, hlink, hfound, rfl⟩, ⟨link', hlink', -, htext⟩⟩
    rw [linkFor?_of_parts h, Option.some.injEq] at hlink
    rw [linkFor?_of_parts h', Option.some.injEq] at hlink'
    subst hlink
    subst hlink'
    exact ⟨hfound, hnames.mp htext.symm⟩
  · rintro ⟨hfound, heq⟩
    have htext := hnames.mpr heq
    refine ⟨_, ⟨_, linkFor?_of_parts h, hfound, rfl⟩, ⟨_, linkFor?_of_parts h', ?_, htext.symm⟩⟩
    rw [FileSystem.found, ← htext]
    exact hfound

/-- Paths with different package ids are different. -/
theorem ne_of_package_ne {lead' name' : List String} {package' : String}
    (h : StorePath.Parts layout (StorePath.segments path) lead package name)
    (h' : StorePath.Parts layout (StorePath.segments other) lead' package' name')
    (hne : package ≠ package') : path ≠ other := by
  rintro rfl
  exact hne (h.unique h').2.1

end Names

end ProductionClosure

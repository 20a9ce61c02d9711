import ProductionClosure.Proofs.StorePath.Spelling

/-!
The grammar of store paths. A package name is read from a path exactly if the segments of the path
come apart as the grammar says, and they come apart in one way only. Since the grammar speaks of
segments, how the path is spelled makes no difference to the answer.
-/

namespace ProductionClosure.StorePath

/-- What leads to the store, the two folders of the store, a package id, the inner folder and the
package name, which has no empty segment and is no scope alone. Nowhere before is the shape of the
store. -/
structure Grammar (layout : StoreLayout) (segments lead : List String) (package : String)
    (name : List String) : Prop where
  eq : segments =
    lead ++ [layout.linkFolder, layout.marker, package, layout.linkFolder] ++ name
  package_ne : package ≠ ""
  name_ne : name ≠ []
  no_empty : ∀ segment ∈ name, segment ≠ ""
  not_scope : ∀ scope, name ≠ ["@" ++ scope]
  first : ∀ shorter rest, shorter.length < lead.length → segments = shorter ++ rest →
    ¬ HasShape layout rest

variable {layout : StoreLayout} {segments lead name : List String} {package path : String}

theorem startsWith_at_iff {segment : String} :
    segment.startsWith "@" = true ↔ ∃ scope, segment = "@" ++ scope := by
  rw [String.startsWith_string_iff]
  constructor
  · rintro ⟨scope, hscope⟩
    refine ⟨String.ofList scope, String.toList_inj.mp ?_⟩
    have hback : (String.ofList scope).toList = scope := String.toList_ofList
    rw [← hscope, String.toList_append, hback]
  · rintro ⟨scope, rfl⟩
    rw [String.toList_append]
    exact List.prefix_append _ _

theorem isName_iff :
    isName name = true ↔
      name ≠ [] ∧ (∀ segment ∈ name, segment ≠ "") ∧ ∀ scope, name ≠ ["@" ++ scope] := by
  cases name with
  | nil => simp [isName]
  | cons first more =>
    cases more with
    | nil =>
      have hscope : (!first.startsWith "@") = true ↔ ∀ scope, first ≠ "@" ++ scope := by
        rw [Bool.not_eq_true', Bool.eq_false_iff, Ne, startsWith_at_iff, not_exists]
      simp only [isName, Bool.and_eq_true, hscope]
      simp
    | cons second rest => simp [isName]

theorem parts_iff_grammar :
    Parts layout segments lead package name ↔ Grammar layout segments lead package name := by
  constructor
  · intro h
    obtain ⟨hname, hempty, hscope⟩ := isName_iff.mp h.isName
    refine ⟨?_, h.package_ne, hname, hempty, hscope, ?_⟩
    · rw [List.append_assoc]
      exact h.eq
    · intro shorter rest hlength heq
      have hrest := h.first shorter.length hlength
      rwa [heq, List.drop_left] at hrest
  · intro h
    refine ⟨?_, h.package_ne, isName_iff.mpr ⟨h.name_ne, h.no_empty, h.not_scope⟩, ?_⟩
    · rw [h.eq, List.append_assoc]
      rfl
    · intro k hk
      refine h.first (segments.take k) (segments.drop k) ?_ (List.take_append_drop k segments).symm
      exact Nat.lt_of_le_of_lt (List.length_take_le k segments) hk

theorem packageName?_eq_some_iff :
    packageName? layout path = some name ↔
      ∃ lead package, Grammar layout (StorePath.segments path) lead package name := by
  simp only [packageName?, nameIn?_eq_some_iff, parts_iff_grammar]

theorem packageName?_eq_of_segments_eq {other : String}
    (h : StorePath.segments path = StorePath.segments other) :
    packageName? layout path = packageName? layout other := by
  rw [packageName?, packageName?, h]

/-- The segments of a path are its pieces without the empty ones at the end. Its package name is
what the grammar reads from them, and there is none exactly if the grammar does not apply; the
grammar reads them in one way. Other separators, and more of them at the end, change nothing. -/
theorem packageName?_accepts_grammar (layout : StoreLayout) (path : String) :
    (StorePath.segments path).getLast? ≠ some "" ∧
    (∃ dropped, Spells (StorePath.segments path ++ List.replicate dropped "") path.toList) ∧
    (∀ name, packageName? layout path = some name ↔
      ∃ lead package, Grammar layout (StorePath.segments path) lead package name) ∧
    (packageName? layout path = none ↔
      ∀ lead package name, ¬ Grammar layout (StorePath.segments path) lead package name) ∧
    (∀ lead package name lead' package' name',
      Grammar layout (StorePath.segments path) lead package name →
      Grammar layout (StorePath.segments path) lead' package' name' →
        lead = lead' ∧ package = package' ∧ name = name') ∧
    (∀ other, SameButSeparators path other →
      packageName? layout other = packageName? layout path) ∧
    ∀ trailing : String, (∀ c ∈ trailing.toList, isSeparator c = true) →
      packageName? layout (path ++ trailing) = packageName? layout path := by
  refine ⟨getLast?_segments path, ?_, fun name => packageName?_eq_some_iff, ?_, ?_, ?_, ?_⟩
  · obtain ⟨dropped, hsplit⟩ := exists_split_eq path
    exact ⟨dropped, hsplit ▸ spells_split path⟩
  · rw [Option.eq_none_iff_forall_ne_some]
    simp only [Ne, packageName?_eq_some_iff, not_exists]
    exact ⟨fun h lead package name => h name lead package,
      fun h name lead package => h lead package name⟩
  · intro lead package name lead' package' name' h h'
    exact (parts_iff_grammar.mpr h).unique (parts_iff_grammar.mpr h')
  · intro other hother
    exact packageName?_eq_of_segments_eq hother.segments_eq.symm
  · intro trailing htrailing
    exact packageName?_eq_of_segments_eq (segments_append_separators htrailing)

namespace Sample

def scopedPath : String := "C:\\ws/node_modules\\.pnpm/@s+p@1/node_modules\\@s/p"

theorem segments_scopedPath :
    StorePath.segments scopedPath =
      ["C:", "ws", "node_modules", ".pnpm", "@s+p@1", "node_modules", "@s", "p"] := by decide

theorem grammar_scopedPath :
    Grammar {} (StorePath.segments scopedPath) ["C:", "ws"] "@s+p@1" ["@s", "p"] where
  eq := segments_scopedPath
  package_ne := by decide
  name_ne := by decide
  no_empty := by decide
  not_scope scope h := by cases (List.cons.inj h).2
  first shorter rest hlength heq hshape := by
    obtain ⟨package, name, -, -, rfl⟩ := hshape
    rw [segments_scopedPath] at heq
    match shorter, hlength with
    | [], _ => exact absurd (List.cons.inj heq).1 (by decide)
    | [_], _ => exact absurd (List.cons.inj (List.cons.inj heq).2).1 (by decide)

end Sample

/-- The name of a scoped package is read, and read again behind more separators. -/
theorem scoped_name_is_read :
    Grammar {} (StorePath.segments Sample.scopedPath) ["C:", "ws"] "@s+p@1" ["@s", "p"] ∧
      packageName? {} Sample.scopedPath = some ["@s", "p"] ∧
      (∀ c ∈ "/\\".toList, isSeparator c = true) ∧
      packageName? {} (Sample.scopedPath ++ "/\\") = packageName? {} Sample.scopedPath := by
  obtain ⟨-, -, hname, -, -, -, htrailing⟩ := packageName?_accepts_grammar {} Sample.scopedPath
  have hseparators : ∀ c ∈ "/\\".toList, isSeparator c = true := by simp [isSeparator]
  exact ⟨Sample.grammar_scopedPath, (hname _).mpr ⟨_, _, Sample.grammar_scopedPath⟩, hseparators,
    htrailing _ hseparators⟩

end ProductionClosure.StorePath

import ProductionClosure.Proofs.Hoisting.Versions
import ProductionClosure.Proofs.Resolution.Paths

/-!
What becomes of two versions of a package. The replacement of store paths gives them one text
exactly when they collapse, and then the union of all paths holds that text once. Within one folder
a link for any version of a package stands for every version of it.
-/

namespace ProductionClosure

/-- A folder whose store paths count for a resolution: the workspace, and an overlay that
resolves. -/
inductive Counts (world : World) (config : Config) (workspace repoRoot : Path)
    (wantsOverlay : Bool) : Path → Prop where
  | workspace : Counts world config workspace repoRoot wantsOverlay workspace
  | overlay {folder : Path}
      (h : OverlayResolves world config workspace repoRoot wantsOverlay folder) :
      Counts world config workspace repoRoot wantsOverlay folder

/-- A store path that counts for a resolution, with the folder it is seen from. -/
def Contributes (world : World) (config : Config) (workspace repoRoot : Path)
    (wantsOverlay : Bool) (folder : Path) (path : String) : Prop :=
  Counts world config workspace repoRoot wantsOverlay folder ∧
    ∃ paths, Installed world config folder paths ∧ path ∈ paths

/-- Two texts have places of their own in a list. -/
def PlacedApart (texts : List String) (text other : String) : Prop :=
  ∃ i j : Nat, i ≠ j ∧ texts[i]? = some text ∧ texts[j]? = some other

section

variable {world : World} {config : Config} {workspace repoRoot folder : Path}
  {wantsOverlay : Bool} {path other : String}

theorem placedApart_iff {texts : List String} {text other : String} (hnodup : texts.Nodup)
    (htext : text ∈ texts) (hother : other ∈ texts) :
    PlacedApart texts text other ↔ text ≠ other := by
  constructor
  · rintro ⟨i, j, hij, hi, hj⟩ rfl
    obtain ⟨hlt, -⟩ := List.getElem?_eq_some_iff.mp hi
    exact hij ((List.getElem?_inj hlt hnodup).mp (hi.trans hj.symm))
  · intro hne
    obtain ⟨i, hi⟩ := List.mem_iff_getElem?.mp htext
    obtain ⟨j, hj⟩ := List.mem_iff_getElem?.mp hother
    refine ⟨i, j, ?_, hi, hj⟩
    rintro rfl
    rw [hi] at hj
    exact hne (Option.some.inj hj)

/-- What stands for a store path that counts is among the paths. -/
theorem Contributes.mem_paths {result : Resolved}
    (hpath : Contributes world config workspace repoRoot wantsOverlay folder path)
    (h : (resolve world config workspace repoRoot wantsOverlay).outcome =
      .ok (.resolved result)) :
    standIn world.files folder config.layout path ∈ result.paths := by
  obtain ⟨hcounts, paths, hpaths, hmem⟩ := hpath
  obtain ⟨primary, overlaid, hprimary, hoverlaid, hmerged⟩ := paths_of_resolve h
  rw [hmerged, mem_mergePaths]
  cases hcounts with
  | workspace =>
    obtain rfl := hpaths.unique hprimary
    exact Or.inl (List.mem_map_of_mem hmem)
  | overlay hfolder =>
    obtain rfl := (OverlayShows.resolved hfolder hpaths).unique hoverlaid
    exact Or.inr (List.mem_map_of_mem hmem)

theorem nodup_paths_of_resolve {result : Resolved}
    (h : (resolve world config workspace repoRoot wantsOverlay).outcome =
      .ok (.resolved result)) : result.paths.Nodup := by
  obtain ⟨primary, overlaid, -, -, hmerged⟩ := paths_of_resolve h
  rw [hmerged]
  exact mergePaths_nodup _ _

end

/-! ### Two versions and one link -/

namespace Sample

def secondVersion : String := "/node_modules/.pnpm/a@2/node_modules/a"

theorem parts_secondVersion :
    StorePath.Parts {} (StorePath.segments secondVersion) [""] "a@2" ["a"] :=
  parts_of_segments (by decide) (by decide)

theorem outcome_hoist :
    (hoist linkedFiles workspace {} [firstVersion, secondVersion]).outcome =
      .ok [link.toString, link.toString] := by
  have hfirst := linkFor?_version parts_firstVersion
  have hsecond := linkFor?_version parts_secondVersion
  have hfound : linkedFiles.found link = true := found_link []
  have hanswered : ∀ path ∈ [firstVersion, secondVersion],
      ¬ Unanswered linkedFiles workspace {} path := by
    intro path hpath
    rcases List.mem_pair.mp hpath with rfl | rfl
    · exact not_unanswered_of_found hfirst hfound
    · exact not_unanswered_of_found hsecond hfound
  rw [outcome_hoist_of_answered hanswered, List.map_cons, List.map_singleton,
    standIn_of_found hfirst hfound, standIn_of_found hsecond hfound]

end Sample

/-! ### All versions -/

/-- Store paths with different package ids get different texts, and places of their own in a
resolution, exactly when they do not collapse; and in one folder they share a link exactly when it
exists and both have its name. -/
theorem versions_collapse_iff {layout : StoreLayout} {path other package package' : String}
    {lead name lead' name' : List String}
    (hpath : StorePath.Parts layout (StorePath.segments path) lead package name)
    (hother : StorePath.Parts layout (StorePath.segments other) lead' package' name')
    (hpackage : package ≠ package') :
    (∀ (files : FileSystem) (workspace : Path) (paths shown : List String) (i j : Nat),
      (hoist files workspace layout paths).outcome = .ok shown →
      paths[i]? = some path → paths[j]? = some other →
        (shown[i]? = shown[j]? ↔ Collapse files layout workspace path workspace other)) ∧
    (∀ (files : FileSystem) (workspace : Path),
      (∃ text, HoistedTo files layout workspace path text ∧
          HoistedTo files layout workspace other text) ↔
        files.found (linkOf (linkRoot workspace layout) name) = true ∧
          name.filter Path.isSegment = name'.filter Path.isSegment) ∧
    ∀ (world : World) (config : Config) (workspace repoRoot : Path) (wantsOverlay : Bool)
      (result : Resolved) (folder otherFolder : Path), config.layout = layout →
      (resolve world config workspace repoRoot wantsOverlay).outcome = .ok (.resolved result) →
      Contributes world config workspace repoRoot wantsOverlay folder path →
      Contributes world config workspace repoRoot wantsOverlay otherFolder other →
        (PlacedApart result.paths (standIn world.files folder layout path)
            (standIn world.files otherFolder layout other) ↔
          ¬ Collapse world.files layout folder path otherFolder other) := by
  have hne := ne_of_package_ne hpath hother hpackage
  refine ⟨?_, fun files workspace => exists_shared_iff hpath hother, ?_⟩
  · intro files workspace paths shown i j hhoist hi hj
    obtain ⟨-, rfl⟩ := outcome_hoist_eq_ok.mp hhoist
    rw [List.getElem?_map, List.getElem?_map, hi, hj, Option.map_some, Option.map_some,
      Option.some.injEq]
    exact standIn_eq_iff hne
  · intro world config workspace repoRoot wantsOverlay result folder otherFolder hlayout h hfirst
      hsecond
    subst hlayout
    rw [placedApart_iff (nodup_paths_of_resolve h) (hfirst.mem_paths h) (hsecond.mem_paths h)]
    exact not_congr (standIn_eq_iff hne)

/-- With one of two versions linked, both collapse. -/
theorem linked_versions_collapse :
    StorePath.Parts {} (StorePath.segments Sample.firstVersion) [""] "a@1" ["a"] ∧
      StorePath.Parts {} (StorePath.segments Sample.secondVersion) [""] "a@2" ["a"] ∧
      "a@1" ≠ "a@2" ∧
      Collapse Sample.linkedFiles {} Sample.workspace Sample.firstVersion Sample.workspace
        Sample.secondVersion := by
  have hpackage : "a@1" ≠ "a@2" := by decide
  refine ⟨Sample.parts_firstVersion, Sample.parts_secondVersion, hpackage, ?_⟩
  have hhoist := (versions_collapse_iff Sample.parts_firstVersion Sample.parts_secondVersion
    hpackage).1 Sample.linkedFiles Sample.workspace _ _ 0 1 Sample.outcome_hoist rfl rfl
  exact hhoist.mp rfl

/-- Two versions of a package can get one text. -/
theorem versions_not_kept_apart :
    ¬ ∀ (files : FileSystem) (workspace : Path) (layout : StoreLayout)
      (paths shown : List String) (i j : Nat) (path other package package' : String)
      (lead name lead' name' : List String),
      (hoist files workspace layout paths).outcome = .ok shown →
      paths[i]? = some path → paths[j]? = some other →
      StorePath.Parts layout (StorePath.segments path) lead package name →
      StorePath.Parts layout (StorePath.segments other) lead' package' name' →
      package ≠ package' → shown[i]? ≠ shown[j]? := by
  intro hapart
  have hpackage : "a@1" ≠ "a@2" := by decide
  exact hapart _ _ _ _ _ 0 1 _ _ _ _ _ _ _ _ Sample.outcome_hoist rfl rfl
    Sample.parts_firstVersion Sample.parts_secondVersion hpackage rfl

end ProductionClosure

import ProductionClosure.Proofs.FileSystem.RealPath
import ProductionClosure.Proofs.Overlay

/-!
The overlay folder as a mirror of the repository. A workspace has an overlay folder exactly if its
real path continues that of the repository root, segment by segment, and the folder is what the
continuation leads to below the overlay. Below one folder the continuation can be read off the text,
so workspaces share an overlay folder only if they are the same folder.
-/

namespace ProductionClosure

namespace Path

def parts (path : Path) : List String := path.anchor.text :: path.segments

variable {path base position : Path}

theorem anchor_text_inj {anchor other : Anchor} (h : anchor.text = other.text) : anchor = other := by
  revert h
  cases anchor <;> cases other <;> decide

theorem parts_prefix_iff :
    base.parts <+: path.parts ↔ path.anchor = base.anchor ∧ base.segments <+: path.segments := by
  rw [parts, parts, List.cons_prefix_cons]
  constructor
  · rintro ⟨hanchor, hsegments⟩
    exact ⟨anchor_text_inj hanchor.symm, hsegments⟩
  · rintro ⟨hanchor, hsegments⟩
    exact ⟨congrArg Anchor.text hanchor.symm, hsegments⟩

/-- A path relative to its anchor goes behind another path. -/
theorem div_of_relative (h : position.isAbsolute = false) :
    base / position = { base with segments := base.segments ++ position.segments } := by
  show join base position = _
  rw [join, if_neg (Bool.eq_false_iff.mp h)]

theorem relativeTo?_eq_none_iff : path.relativeTo? base = none ↔ ¬ base.parts <+: path.parts := by
  rw [relativeTo?, parts_prefix_iff]
  split
  · next hbelow => simp [hbelow]
  · next hbelow => simp [hbelow]

theorem anchor_of_relative (h : position.isAbsolute = false) : position.anchor = .relative := by
  by_contra hanchor
  exact absurd h (by simp [isAbsolute, hanchor])

/-- The way from one path to another is what has to be put behind the first one. -/
theorem relativeTo?_eq_some_iff :
    path.relativeTo? base = some position ↔
      position.isAbsolute = false ∧ base / position = path := by
  rw [relativeTo?]
  constructor
  · intro h
    split at h
    · next hbelow =>
      obtain ⟨hanchor, rest, hrest⟩ := hbelow
      rw [← hrest, List.drop_left] at h
      cases h
      refine ⟨rfl, ?_⟩
      rw [div_of_relative rfl, ← hanchor, hrest]
    · cases h
  · rintro ⟨hrelative, rfl⟩
    rw [div_of_relative hrelative, if_pos ⟨rfl, List.prefix_append _ _⟩, List.drop_left,
      ← anchor_of_relative hrelative]

/-- What is put behind a path can be read off the text. -/
theorem toString_div_inj {other : Path} (hposition : position.isAbsolute = false)
    (hother : other.isAbsolute = false) (hnamed : Named position.segments)
    (hnamed' : Named other.segments)
    (h : (base / position).toString = (base / other).toString) : position = other := by
  rw [div_of_relative hposition, div_of_relative hother] at h
  have hsegments := toString_append_inj hnamed hnamed' h
  have hanchor := (anchor_of_relative hposition).trans (anchor_of_relative hother).symm
  obtain ⟨anchor, segments⟩ := position
  obtain ⟨anchor', segments'⟩ := other
  obtain rfl : anchor = anchor' := hanchor
  obtain rfl : segments = segments' := hsegments
  rfl

end Path

variable {files : FileSystem} {workspace other repoRoot realWorkspace realOther realRoot : Path}
  {folder folder' : Path} {overlayFolder : String}

/-- The overlay folder of a workspace is where its position below the repository leads to below the
overlay. -/
theorem overlayAt_iff (hworkspace : files.realPath workspace = .ok realWorkspace)
    (hroot : files.realPath repoRoot = .ok realRoot) :
    OverlayAt files workspace repoRoot overlayFolder folder ↔
      ∃ position : Path, position.isAbsolute = false ∧ realRoot / position = realWorkspace ∧
        realRoot / Path.ofString overlayFolder / position = folder := by
  constructor
  · rintro ⟨_, _, position, hworkspace', hroot', hposition, hfolder⟩
    cases hworkspace.symm.trans hworkspace'
    cases hroot.symm.trans hroot'
    obtain ⟨hrelative, hreal⟩ := Path.relativeTo?_eq_some_iff.mp hposition
    exact ⟨position, hrelative, hreal, hfolder⟩
  · rintro ⟨position, hrelative, hreal, hfolder⟩
    exact ⟨realWorkspace, realRoot, position, hworkspace, hroot,
      Path.relativeTo?_eq_some_iff.mpr ⟨hrelative, hreal⟩, hfolder⟩

theorem named_of_div_eq {position : Path} (hrelative : position.isAbsolute = false)
    (hworkspace : files.realPath workspace = .ok realWorkspace)
    (hreal : realRoot / position = realWorkspace) : Path.Named position.segments := by
  have hnamed := FileSystem.named_realPath hworkspace
  rw [← hreal, Path.div_of_relative hrelative] at hnamed
  exact hnamed.of_subset (List.subset_append_right _ _)

/-- Two workspaces of one repository have overlay folders of one text exactly if their real paths
are the same. -/
theorem toString_overlay_eq_iff (hroot : files.realPath repoRoot = .ok realRoot)
    (hworkspace : files.realPath workspace = .ok realWorkspace)
    (hother : files.realPath other = .ok realOther)
    (h : OverlayAt files workspace repoRoot overlayFolder folder)
    (h' : OverlayAt files other repoRoot overlayFolder folder') :
    folder.toString = folder'.toString ↔ realWorkspace = realOther := by
  obtain ⟨position, hrelative, hreal, rfl⟩ := (overlayAt_iff hworkspace hroot).mp h
  obtain ⟨position', hrelative', hreal', rfl⟩ := (overlayAt_iff hother hroot).mp h'
  constructor
  · intro htext
    have heq := Path.toString_div_inj hrelative hrelative'
      (named_of_div_eq hrelative hworkspace hreal) (named_of_div_eq hrelative' hother hreal') htext
    rw [← hreal, ← hreal', heq]
  · intro heq
    subst heq
    cases (Path.relativeTo?_eq_some_iff.mpr ⟨hrelative, hreal⟩).symm.trans
      (Path.relativeTo?_eq_some_iff.mpr ⟨hrelative', hreal'⟩)
    rfl

/-- Where real paths are known, a workspace has no overlay folder exactly if the segments of the
repository root do not begin those of the workspace; else the folder is where its position below the
root leads to below the overlay. Two workspaces inside the repository have the same overlay folder
exactly if they have the same real path, whatever the overlay is called. -/
theorem overlayRoot_mirrors_repository (overlayFolder : String)
    (hroot : files.realPath repoRoot = .ok realRoot) :
    (∀ workspace realWorkspace, files.realPath workspace = .ok realWorkspace →
      ((overlayRoot files workspace repoRoot overlayFolder).outcome = .ok none ↔
        ¬ realRoot.parts <+: realWorkspace.parts) ∧
      (realRoot.parts <+: realWorkspace.parts →
        ∃ position : Path, position.isAbsolute = false ∧ realRoot / position = realWorkspace ∧
          (overlayRoot files workspace repoRoot overlayFolder).outcome =
            .ok (some (realRoot / Path.ofString overlayFolder / position)))) ∧
    ∀ workspace other realWorkspace realOther folder folder',
      files.realPath workspace = .ok realWorkspace → files.realPath other = .ok realOther →
      (overlayRoot files workspace repoRoot overlayFolder).outcome = .ok (some folder) →
      (overlayRoot files other repoRoot overlayFolder).outcome = .ok (some folder') →
        (folder = folder' ↔ realWorkspace = realOther) ∧
          (folder.toString = folder'.toString ↔ realWorkspace = realOther) := by
  constructor
  · intro workspace realWorkspace hworkspace
    rw [outcome_overlayRoot_of_real hworkspace hroot, Except.ok.injEq, Option.map_eq_none_iff]
    refine ⟨Path.relativeTo?_eq_none_iff, ?_⟩
    intro hinside
    cases hposition : realWorkspace.relativeTo? realRoot with
    | none => exact absurd hinside (Path.relativeTo?_eq_none_iff.mp hposition)
    | some position =>
      obtain ⟨hrelative, hreal⟩ := Path.relativeTo?_eq_some_iff.mp hposition
      exact ⟨position, hrelative, hreal, rfl⟩
  · intro workspace other realWorkspace realOther folder folder' hworkspace hother hfolder hfolder'
    have hat := outcome_overlayRoot_eq_some.mp hfolder
    have hat' := outcome_overlayRoot_eq_some.mp hfolder'
    have htext := toString_overlay_eq_iff hroot hworkspace hother hat hat'
    refine ⟨⟨fun heq => htext.mp (congrArg Path.toString heq), ?_⟩, htext⟩
    intro heq
    subst heq
    obtain ⟨position, hrelative, hreal, rfl⟩ := (overlayAt_iff hworkspace hroot).mp hat
    exact ((overlayAt_iff hother hroot).mpr ⟨position, hrelative, hreal, rfl⟩).unique hat'

-- a folder beside the repository whose name starts like that of the repository is not inside
example : ¬ (Path.ofString "/repo").parts <+: (Path.ofString "/repo-old/app").parts := by decide

namespace Sample

def linkedRepository : FileSystem where
  entries := [(["repo"], .directory), (["repo", "app"], .directory), (["w"], .link "repo/app")]
  workingFolder := "/"

theorem linkStatus_repository :
    linkedRepository.linkStatus "/repo" = .ok .directory ∧
      linkedRepository.linkStatus "/repo/app" = .ok .directory ∧
      linkedRepository.linkStatus "/w" = .ok (.link "repo/app") := by
  have hrepo : Text.splitSlash "/repo" = ["", "repo"] := by decide
  have happ : Text.splitSlash "/repo/app" = ["", "repo", "app"] := by decide
  have hlink : Text.splitSlash "/w" = ["", "w"] := by decide
  have hrepo' : (Path.ofString "/repo").isAbsolute = true := by decide
  have happ' : (Path.ofString "/repo/app").isAbsolute = true := by decide
  have hlink' : (Path.ofString "/w").isAbsolute = true := by decide
  simp [FileSystem.linkStatus, FileSystem.locate, String.contains_char_eq, hrepo, happ, hlink,
    hrepo', happ', hlink', FileSystem.walk, FileSystem.entry?, FileSystem.maxNameOctets,
    FileSystem.maxPathOctets, linkedRepository, List.lookup_cons]
  decide

theorem realPath_repository :
    linkedRepository.realPath (Path.ofString "/repo") = .ok (Path.ofString "/repo") ∧
      linkedRepository.realPath (Path.ofString "/repo/app") = .ok (Path.ofString "/repo/app") ∧
      linkedRepository.realPath (Path.ofString "/w") = .ok (Path.ofString "/repo/app") := by
  obtain ⟨hrepo, happ, hlink⟩ := linkStatus_repository
  -- the places that are met on the way, as texts
  have hrepo' : (⟨.root, ["repo"]⟩ : Path).toString = "/repo" := by decide
  have happ' : (⟨.root, ["repo", "app"]⟩ : Path).toString = "/repo/app" := by decide
  have hlink' : (⟨.root, ["w"]⟩ : Path).toString = "/w" := by decide
  have hpaths : Path.ofString "/repo" = ⟨.root, ["repo"]⟩ ∧
      Path.ofString "/repo/app" = ⟨.root, ["repo", "app"]⟩ ∧
      Path.ofString "/w" = ⟨.root, ["w"]⟩ := by decide
  have hpieces : Text.splitSlash "/repo" = ["", "repo"] ∧
      Text.splitSlash "/repo/app" = ["", "repo", "app"] ∧
      Text.splitSlash "/w" = ["", "w"] ∧ Text.splitSlash "repo/app" = ["repo", "app"] := by decide
  have hfuel : linkedRepository.realPathFuel "/repo" = 27 ∧
      linkedRepository.realPathFuel "/repo/app" = 31 ∧
      linkedRepository.realPathFuel "/w" = 24 := by decide
  simp [FileSystem.realPath, FileSystem.followReal, Path.isAbsolute, hpaths, hpieces, hfuel, hrepo,
    happ, hlink, hrepo', happ', hlink', bind, Except.bind, pure, Except.pure]
  decide

end Sample

/-- A workspace and a link to it have one overlay folder, also below a name that leads up again. -/
theorem linked_workspace_shares_overlay :
    Sample.linkedRepository.realPath (Path.ofString "/repo") = .ok (Path.ofString "/repo") ∧
      Sample.linkedRepository.realPath (Path.ofString "/w") = .ok (Path.ofString "/repo/app") ∧
      Sample.linkedRepository.realPath (Path.ofString "/repo/app") =
        .ok (Path.ofString "/repo/app") ∧
      ∃ folder,
        (overlayRoot Sample.linkedRepository (Path.ofString "/w") (Path.ofString "/repo")
          ".build/../o").outcome = .ok (some folder) ∧
        (overlayRoot Sample.linkedRepository (Path.ofString "/repo/app") (Path.ofString "/repo")
          ".build/../o").outcome = .ok (some folder) := by
  obtain ⟨hroot, happ, hlink⟩ := Sample.realPath_repository
  obtain ⟨hplace, hsame⟩ := overlayRoot_mirrors_repository ".build/../o" hroot
  have hinside : (Path.ofString "/repo").parts <+: (Path.ofString "/repo/app").parts := by decide
  obtain ⟨_, -, -, hfolder⟩ := (hplace _ _ hlink).2 hinside
  obtain ⟨_, -, -, hfolder'⟩ := (hplace _ _ happ).2 hinside
  have hshared := (hsame _ _ _ _ _ _ hlink happ hfolder hfolder').1.mpr rfl
  exact ⟨hroot, hlink, happ, _, hfolder, hshared ▸ hfolder'⟩

end ProductionClosure

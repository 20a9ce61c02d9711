import Mathlib
import ProductionClosure.Proofs.Closure.FirstMention
import ProductionClosure.Proofs.Hoisting.Versions
import ProductionClosure.Proofs.Resolution.Steps

/-!
The paths of a resolution. They are what stands for the store paths of the workspace, and behind
those what stands for the store paths of its overlay: nothing is lost on the way, nothing is added,
and nothing comes twice, although two store paths may have one text standing for them.
-/

namespace ProductionClosure

/-- The folder of an overlay that counts: both the caller and the settings want it, it is there, and
it resolves. -/
structure OverlayResolves (world : World) (config : Config) (workspace repoRoot : Path)
    (wantsOverlay : Bool) (folder : Path) : Prop where
  wanted : wantsOverlay = true
  enabled : config.overlay = true
  found : OverlayFound world.files workspace repoRoot config.overlayFolder folder
  resolves : ∃ part, (resolveWorkspace world config folder).outcome = .ok part

/-- What stands for the store paths of the overlay, in the order of the walk; nothing where no
overlay counts. -/
inductive OverlayShows (world : World) (config : Config) (workspace repoRoot : Path)
    (wantsOverlay : Bool) : List String → Prop where
  | resolved {folder : Path} {paths : PathSet}
      (hfolder : OverlayResolves world config workspace repoRoot wantsOverlay folder)
      (hpaths : Installed world config folder paths) :
      OverlayShows world config workspace repoRoot wantsOverlay
        (paths.toList.map (standIn world.files folder config.layout))
  | nothing (h : ∀ folder, ¬ OverlayResolves world config workspace repoRoot wantsOverlay folder) :
      OverlayShows world config workspace repoRoot wantsOverlay []

section

variable {world : World} {config : Config} {workspace repoRoot : Path} {wantsOverlay : Bool}

theorem OverlayResolves.unique {folder other : Path}
    (h : OverlayResolves world config workspace repoRoot wantsOverlay folder)
    (hother : OverlayResolves world config workspace repoRoot wantsOverlay other) :
    folder = other :=
  h.found.1.unique hother.found.1

/-- What the overlay shows is one list. -/
theorem OverlayShows.unique {shown other : List String}
    (h : OverlayShows world config workspace repoRoot wantsOverlay shown)
    (hother : OverlayShows world config workspace repoRoot wantsOverlay other) :
    shown = other := by
  cases h with
  | resolved hfolder hpaths =>
    cases hother with
    | resolved hfolder' hpaths' =>
      obtain rfl := hfolder.unique hfolder'
      rw [hpaths.unique hpaths']
    | nothing hno => exact absurd hfolder (hno _)
  | nothing hno =>
    cases hother with
    | resolved hfolder' => exact absurd hfolder' (hno _)
    | nothing => rfl

theorem overlayShows_of_not_wanted (h : (wantsOverlay && config.overlay) = false) :
    OverlayShows world config workspace repoRoot wantsOverlay [] := by
  refine .nothing fun folder hfolder => ?_
  rw [hfolder.wanted, hfolder.enabled] at h
  cases h

theorem overlayShows_of_overlayPart {overlay : OverlayPart}
    (hwants : (wantsOverlay && config.overlay) = true)
    (h : (overlayPart world config workspace repoRoot).outcome = .ok overlay) :
    OverlayShows world config workspace repoRoot wantsOverlay overlay.paths := by
  obtain ⟨hwanted, henabled⟩ := Bool.and_eq_true_iff.mp hwants
  have hends := overlayPart_ends world config workspace repoRoot
  rw [h] at hends
  cases hends with
  | absent habsent => exact .nothing fun folder hfolder => habsent folder hfolder.found
  | @merged folder part hfound hpart =>
    obtain ⟨paths, hpaths, -, -, hshown⟩ := installed_of_resolveWorkspace hpart
    show OverlayShows world config workspace repoRoot wantsOverlay part.paths
    rw [hshown]
    exact .resolved ⟨hwanted, henabled, hfound, part, hpart⟩ hpaths
  | skipped hfound hfailure =>
    refine .nothing fun other hother => ?_
    obtain ⟨part, hok⟩ := hother.resolves
    rw [← hfound.1.unique hother.found.1, hfailure] at hok
    cases hok

/-- A resolution merges what stands for the workspace with what the overlay shows. -/
theorem paths_of_resolve {result : Resolved}
    (h : (resolve world config workspace repoRoot wantsOverlay).outcome =
      .ok (.resolved result)) :
    ∃ paths overlaid, Installed world config workspace paths ∧
      OverlayShows world config workspace repoRoot wantsOverlay overlaid ∧
      result.paths =
        mergePaths (paths.toList.map (standIn world.files workspace config.layout)) overlaid := by
  have hends := resolve_ends world config workspace repoRoot wantsOverlay
  rw [h] at hends
  cases hends with
  | alone hprimary hwants =>
    obtain ⟨paths, hpaths, -, -, hshown⟩ := installed_of_resolveWorkspace hprimary
    refine ⟨paths, [], hpaths, overlayShows_of_not_wanted hwants, ?_⟩
    rw [← hshown]
    rfl
  | overlaid hprimary hwants hoverlay =>
    obtain ⟨paths, hpaths, -, -, hshown⟩ := installed_of_resolveWorkspace hprimary
    refine ⟨paths, _, hpaths, overlayShows_of_overlayPart hwants hoverlay, ?_⟩
    rw [← hshown]
    rfl

end

/-! ### A workspace with an overlay -/

namespace Sample

def workspaceReport : String := "[\x7b\"dependencies\":\x7b\"a\":\x7b\"path\":\"/a\"\x7d\x7d\x7d]"

def overlayReport : String := "[\x7b\"dependencies\":\x7b\"b\":\x7b\"path\":\"/b\"\x7d\x7d\x7d]"

def listing (report : String) : ProcessOutcome := .ended (some (Text.encodeUtf8 report)) none 0

def world : World where
  files := ⟨[(["o"], .directory)], "/"⟩
  tools := { listings := [("/", listing workspaceReport), ("/o", listing overlayReport)] }
  environment := []

def workspace : Path := ⟨.root, []⟩

def overlay : Path := ⟨.root, ["o"]⟩

def config : Config := { overlayFolder := "o" }

def result : Resolved := ⟨workspace, workspace, ["/a", "/b"], 1, some overlay, 1, []⟩

theorem status_workspace : world.files.status workspace.toString = .ok .directory :=
  FileSystem.status_root world.files

theorem status_overlay : world.files.status overlay.toString = .ok .directory := by
  cbv

/-- A printed report comes to one entry with some paths. -/
def Reports (report : String) (paths : List String) : Prop :=
  (parseReport (printedText (Text.encodeUtf8 report))).map (fun entries =>
    (entries.length, entries.isEmpty, (closure entries).toList)) = .ok (1, false, paths)

theorem reports_workspaceReport : Reports workspaceReport ["/a"] := by
  unfold Reports
  cbv

theorem reports_overlayReport : Reports overlayReport ["/b"] := by
  unfold Reports
  cbv

/-- A report gives what stands for its paths. -/
theorem outcome_resolveWorkspace_of_reports {host : World} {config : Config} {folder : Path}
    {report : String} {paths : List String}
    (hfolder : host.files.status folder.toString = .ok .directory)
    (hlisting : host.tools.listing folder.toString = listing report)
    (hreport : Reports report paths)
    (hanswered : ∀ path ∈ paths, ¬ Unanswered host.files folder config.layout path) :
    (resolveWorkspace host config folder).outcome =
      .ok ⟨folder, 1, paths.map (standIn host.files folder config.layout), []⟩ := by
  have hdirectory : host.files.isDirectoryText folder.toString = true :=
    FileSystem.isDirectoryText_of_status_ok hfolder
  unfold Reports at hreport
  cases hentries : parseReport (printedText (Text.encodeUtf8 report)) with
  | error fault =>
    rw [hentries] at hreport
    cases hreport
  | ok entries =>
    rw [hentries] at hreport
    obtain ⟨hlength, hempty, hclosure⟩ : entries.length = 1 ∧ entries.isEmpty = false ∧
        (closure entries).toList = paths := by
      simpa [Except.map] using hreport
    rw [← hclosure] at hanswered
    rw [outcome_resolveWorkspace_of_entries (outcome_queryTree_of_ended hdirectory hlisting)
      hentries, outcome_hoist_of_answered hanswered, hclosure, hlength, hempty]
    rfl

/-- A report on one package outside the store gives its path as it is. -/
theorem outcome_resolveWorkspace {host : World} {config : Config} {folder : Path}
    {report path : String} (hfolder : host.files.status folder.toString = .ok .directory)
    (hlisting : host.tools.listing folder.toString = listing report)
    (hreport : Reports report [path])
    (houtside : StorePath.packageName? config.layout path = none) :
    (resolveWorkspace host config folder).outcome = .ok ⟨folder, 1, [path], []⟩ := by
  have hlink : linkFor? folder config.layout path = none := by
    rw [linkFor?, houtside]
    rfl
  have hanswered : ∀ other ∈ [path], ¬ Unanswered host.files folder config.layout other := by
    rintro other hother
    rw [List.mem_singleton.mp hother]
    exact not_unanswered_of_no_link hlink
  rw [outcome_resolveWorkspace_of_reports hfolder hlisting hreport hanswered, List.map_singleton,
    standIn_of_no_link hlink]

theorem outcome_workspace {config : Config} (h : StorePath.packageName? config.layout "/a" = none) :
    (resolveWorkspace world config workspace).outcome = .ok ⟨workspace, 1, ["/a"], []⟩ :=
  outcome_resolveWorkspace status_workspace rfl reports_workspaceReport h

theorem outcome_overlay {config : Config} (h : StorePath.packageName? config.layout "/b" = none) :
    (resolveWorkspace world config overlay).outcome = .ok ⟨overlay, 1, ["/b"], []⟩ :=
  outcome_resolveWorkspace status_overlay rfl reports_overlayReport h

theorem overlayFound :
    OverlayFound world.files workspace workspace config.overlayFolder overlay :=
  OverlayAt.found ⟨workspace, workspace, ⟨.relative, []⟩, rfl, rfl, rfl, rfl⟩ status_overlay

theorem outcome_resolve :
    (resolve world config workspace workspace true).outcome = .ok (.resolved result) := by
  rw [outcome_resolve_with_overlay (outcome_workspace (by decide)) rfl,
    outcome_overlayPart_of_found overlayFound,
    outcome_resolveOverlay_of_ok (outcome_overlay (by decide))]
  rfl

end Sample

/-! ### All that is installed -/

/-- The paths of a resolution are the texts that stand for the store paths of the workspace and of
its overlay, each once; those of the workspace come first, and those of either part in the order in
which the walk first came to them. -/
theorem resolve_shows_installed {world : World} {config : Config} {workspace repoRoot : Path}
    {wantsOverlay : Bool} {resolution : Resolution}
    (h : (resolve world config workspace repoRoot wantsOverlay).outcome = .ok resolution)
    (hok : resolution.error = none) :
    ∃ paths overlaid, Installed world config workspace paths ∧
      OverlayShows world config workspace repoRoot wantsOverlay overlaid ∧
      (∀ text, text ∈ resolution.paths ↔
        (∃ path ∈ paths, standIn world.files workspace config.layout path = text) ∨
          text ∈ overlaid) ∧
      resolution.paths.Nodup ∧
      ∃ kept added, resolution.paths = kept ++ added ∧
        FirstMentions (paths.toList.map (standIn world.files workspace config.layout)) kept ∧
        FirstMentions (overlaid.filter (· ∉ kept)) added := by
  cases resolution with
  | failed => cases hok
  | resolved result =>
    obtain ⟨paths, overlaid, hpaths, hoverlaid, hmerged⟩ := paths_of_resolve h
    refine ⟨paths, overlaid, hpaths, hoverlaid, ?_, ?_, ?_⟩
    · intro text
      rw [Resolution.paths, hmerged, mem_mergePaths, List.mem_map]
      rfl
    · rw [Resolution.paths, hmerged]
      exact mergePaths_nodup _ _
    · -- a text is kept for the workspace exactly when it stands for one of its store paths
      have hkept := PathSet.firstMentions_ofList
        (paths.toList.map (standIn world.files workspace config.layout))
      refine ⟨_, _, ?_, hkept, PathSet.firstMentions_ofList _⟩
      have hnew : ∀ text, text ∉ (PathSet.ofList
            (paths.toList.map (standIn world.files workspace config.layout))).toList ↔
          text ∉ paths.toList.map (standIn world.files workspace config.layout) :=
        fun text => not_congr (hkept.mem_iff text)
      simp only [hnew]
      rw [Resolution.paths, hmerged, mergePaths, PathSet.toList_ofList_append]

namespace Sample

/-- One version of a package in the store, linked from the top. -/
def linkedFiles : FileSystem where
  entries := [(["node_modules"], .directory), (["node_modules", ".pnpm"], .directory),
    (["node_modules", ".pnpm", "a@1"], .directory),
    (["node_modules", ".pnpm", "a@1", "node_modules"], .directory),
    (["node_modules", ".pnpm", "a@1", "node_modules", "a"], .directory),
    (["node_modules", "a"], .link ".pnpm/a@1/node_modules/a")]
  workingFolder := "/"

def firstVersion : String := "/node_modules/.pnpm/a@1/node_modules/a"

def link : Path := ⟨.root, ["node_modules", "a"]⟩

/-- The link is found whatever else is on the disk. -/
theorem found_link (others : List (Place × Entry)) :
    FileSystem.found ⟨linkedFiles.entries ++ others, "/"⟩ link = true := by
  have htext : link.toString = "/node_modules/a" := by decide
  have hpieces : Text.splitSlash "/node_modules/a" = ["", "node_modules", "a"] := by decide
  have htarget : Text.splitSlash ".pnpm/a@1/node_modules/a" =
      [".pnpm", "a@1", "node_modules", "a"] := by decide
  have habsolute : (Path.ofString "/node_modules/a").isAbsolute = true := by decide
  have hrelative : (Path.ofString ".pnpm/a@1/node_modules/a").isAbsolute = false := by decide
  rw [FileSystem.found, htext]
  simp [FileSystem.status, FileSystem.locate, String.contains_char_eq, hpieces, htarget, habsolute,
    hrelative, FileSystem.walk, FileSystem.entry?, FileSystem.maxNameOctets, FileSystem.maxLinks,
    linkedFiles, List.lookup]
  decide

theorem parts_of_segments {path package : String} (hpackage : package ≠ "")
    (h : StorePath.segments path = ["", "node_modules", ".pnpm", package, "node_modules", "a"]) :
    StorePath.Parts {} (StorePath.segments path) [""] package ["a"] where
  eq := h
  package_ne := hpackage
  isName := by simp [StorePath.isName]
  first k hk := by
    obtain rfl : k = 0 := Nat.lt_one_iff.mp hk
    rintro ⟨_, _, -, -, heq⟩
    rw [h] at heq
    injection heq with hhead
    revert hhead
    decide

theorem parts_firstVersion :
    StorePath.Parts {} (StorePath.segments firstVersion) [""] "a@1" ["a"] :=
  parts_of_segments (by decide) (by decide)

theorem linkFor?_version {path package : String}
    (h : StorePath.Parts {} (StorePath.segments path) [""] package ["a"]) :
    linkFor? workspace {} path = some link := by
  rw [linkFor?_of_parts h]
  decide

end Sample

namespace Stored

def report : String :=
  "[\x7b\"dependencies\":\x7b\"a\":\x7b\"path\":\"" ++ Sample.firstVersion
    ++ "\"\x7d,\"c\":\x7b\"path\":\"/c\"\x7d\x7d\x7d]"

/-- A workspace at the root with an overlay. Of its two packages one is in the store and is linked
from the top. -/
def world : World where
  files := ⟨Sample.linkedFiles.entries ++ [(["o"], .directory)], "/"⟩
  tools :=
    { listings := [("/", Sample.listing report), ("/o", Sample.listing Sample.overlayReport)] }
  environment := []

def result : Resolved :=
  ⟨Sample.workspace, Sample.workspace, ["/node_modules/a", "/c", "/b"], 2, some Sample.overlay, 1,
    []⟩

theorem status_overlay : world.files.status Sample.overlay.toString = .ok .directory := by
  cbv

set_option maxRecDepth 2000 in
theorem reports_report : Sample.Reports report [Sample.firstVersion, "/c"] := by
  unfold Sample.Reports
  cbv

theorem found_link : world.files.found Sample.link = true :=
  Sample.found_link _

theorem standIn_firstVersion :
    standIn world.files Sample.workspace Sample.config.layout Sample.firstVersion =
      "/node_modules/a" :=
  standIn_of_found (Sample.linkFor?_version Sample.parts_firstVersion) found_link

theorem outcome_workspace :
    (resolveWorkspace world Sample.config Sample.workspace).outcome =
      .ok ⟨Sample.workspace, 1, ["/node_modules/a", "/c"], []⟩ := by
  have houtside : linkFor? Sample.workspace Sample.config.layout "/c" = none := by decide
  have hanswered : ∀ path ∈ [Sample.firstVersion, "/c"],
      ¬ Unanswered world.files Sample.workspace Sample.config.layout path := by
    intro path hpath
    rcases List.mem_pair.mp hpath with rfl | rfl
    · exact not_unanswered_of_found (Sample.linkFor?_version Sample.parts_firstVersion) found_link
    · exact not_unanswered_of_no_link houtside
  rw [Sample.outcome_resolveWorkspace_of_reports (FileSystem.status_root world.files) rfl
    reports_report hanswered, List.map_cons, List.map_singleton, standIn_firstVersion,
    standIn_of_no_link houtside]

theorem outcome_overlay :
    (resolveWorkspace world Sample.config Sample.overlay).outcome =
      .ok ⟨Sample.overlay, 1, ["/b"], []⟩ :=
  Sample.outcome_resolveWorkspace status_overlay rfl Sample.reports_overlayReport (by decide)

theorem overlayFound :
    OverlayFound world.files Sample.workspace Sample.workspace Sample.config.overlayFolder
      Sample.overlay :=
  OverlayAt.found ⟨Sample.workspace, Sample.workspace, ⟨.relative, []⟩, rfl, rfl, rfl, rfl⟩
    status_overlay

theorem outcome_resolve :
    (resolve world Sample.config Sample.workspace Sample.workspace true).outcome =
      .ok (.resolved result) := by
  rw [outcome_resolve_with_overlay outcome_workspace rfl,
    outcome_overlayPart_of_found overlayFound, outcome_resolveOverlay_of_ok outcome_overlay]
  rfl

end Stored

/-- A workspace with two packages, one of which is in the store and shown by its link, and another
one in its overlay. -/
theorem overlaid_workspace_shows_installed :
    (resolve Stored.world Sample.config Sample.workspace Sample.workspace true).outcome =
        .ok (.resolved Stored.result) ∧
    standIn Stored.world.files Sample.workspace Sample.config.layout Sample.firstVersion =
        "/node_modules/a" ∧
    ∃ paths overlaid, Installed Stored.world Sample.config Sample.workspace paths ∧
      OverlayShows Stored.world Sample.config Sample.workspace Sample.workspace true overlaid ∧
      (∀ text, text ∈ ["/node_modules/a", "/c", "/b"] ↔
        (∃ path ∈ paths, standIn Stored.world.files Sample.workspace Sample.config.layout path =
          text) ∨ text ∈ overlaid) ∧
      ["/node_modules/a", "/c", "/b"].Nodup ∧
      ∃ kept added, ["/node_modules/a", "/c", "/b"] = kept ++ added ∧
        FirstMentions (paths.toList.map
          (standIn Stored.world.files Sample.workspace Sample.config.layout)) kept ∧
        FirstMentions (overlaid.filter (· ∉ kept)) added :=
  ⟨Stored.outcome_resolve, Stored.standIn_firstVersion,
    resolve_shows_installed Stored.outcome_resolve rfl⟩

end ProductionClosure

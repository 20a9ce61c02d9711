import Mathlib.Data.List.Perm.Subperm
import ProductionClosure.Proofs.Resolution.Steps

/-!
How the parts of an answer fit together. An answer is filled in field by field, and a failure that
is borne with may come between any two of them. Yet only two kinds of answers come out: an error
that stands alone, or paths with counts and an overlay folder that fit them.
-/

namespace ProductionClosure

/-! ### An answer in the making -/

/-- An answer whose fields know nothing of each other: nothing here keeps an error from standing
beside paths, or a count from lagging behind them. -/
structure Draft where
  workspace : Path
  repoRoot : Path
  paths : List String := []
  primaryCount : Nat := 0
  overlayRoot : Option Path := none
  overlayCount : Nat := 0
  warnings : List String := []
  error : Option String := none
  reportExcerpt : Option String := none
  deriving DecidableEq, Repr

namespace Draft

def ok (draft : Draft) : Bool := draft.error.isNone

/-- The answer as an object. Here an error counts only if there is a text in it. -/
def toMembers (draft : Draft) : Json.Members :=
  match draft.error.filter (· ≠ "") with
  | some error =>
    ("error", .string error) ::
      (draft.reportExcerpt.map fun text => ("output_excerpt", Json.string text)).toList
  | none =>
    [("workspace", .string draft.workspace.toString),
      ("repo_root", .string draft.repoRoot.toString), ("paths", Json.ofStrings draft.paths),
      ("primary_count", .int draft.primaryCount),
      ("overlay_root", Resolution.pathJson draft.overlayRoot),
      ("overlay_count", .int draft.overlayCount)]
      ++ if draft.warnings.isEmpty then [] else [("warnings", Json.ofStrings draft.warnings)]

/-- Fills in an overlay folder, and yields the paths in it. The folder is kept even where it cannot
be resolved. -/
def addOverlay (world : World) (config : Config) (draft : Draft) (folder : Path) :
    Run (Draft × List String) := do
  Run.report (.overlayMerged folder)
  let draft := { draft with overlayRoot := some folder }
  match ← (resolveWorkspace world config folder).attempt with
  | .ok part =>
    pure ({ draft with
      overlayCount := part.paths.length
      warnings := draft.warnings ++ part.warnings }, part.paths)
  | .error failure =>
    Run.report (.overlaySkipped failure.message)
    let warning := Event.overlaySkippedText failure.message
    pure ({ draft with warnings := draft.warnings ++ [warning] }, [])

def seekOverlay (world : World) (config : Config) (draft : Draft) : Run (Draft × List String) := do
  match ← findOverlay world.files draft.workspace draft.repoRoot config.overlayFolder with
  | some folder => draft.addOverlay world config folder
  | none =>
    let candidate ←
      ProductionClosure.overlayRoot world.files draft.workspace draft.repoRoot config.overlayFolder
    Run.report (.overlayAbsent candidate)
    pure (draft, [])

/-- Fills in an answer: the workspace first, then the overlay, the paths last. -/
def fill (world : World) (config : Config) (workspace repoRoot : Path) (wantsOverlay : Bool) :
    Run Draft := do
  let draft : Draft := { workspace, repoRoot }
  match ← (resolveWorkspace world config workspace).attempt with
  | .error failure =>
    Run.report (.resolutionFailed workspace failure.message)
    pure { draft with error := some failure.message, reportExcerpt := failure.reportExcerpt? }
  | .ok primary =>
    let draft := { draft with
      primaryCount := primary.paths.length
      warnings := draft.warnings ++ primary.warnings }
    let (draft, overlaid) ←
      if wantsOverlay && config.overlay then draft.seekOverlay world config else pure (draft, [])
    let draft := { draft with paths := mergePaths primary.paths overlaid }
    Run.report (.resolved draft.paths.length workspace)
    pure draft

def withOverlay (draft : Draft) (overlay : OverlayPart) : Draft :=
  { draft with
    overlayRoot := overlay.folder
    overlayCount := overlay.paths.length
    warnings := draft.warnings ++ overlay.warnings }

end Draft

def Resolution.draft : Resolution → Draft
  | .resolved result =>
    { workspace := result.workspace, repoRoot := result.repoRoot, paths := result.paths
      primaryCount := result.primaryCount, overlayRoot := result.overlayRoot
      overlayCount := result.overlayCount, warnings := result.warnings }
  | .failed workspace repoRoot error reportExcerpt =>
    { workspace, repoRoot, error := some error, reportExcerpt }

namespace Draft

variable {world : World} {config : Config} {workspace repoRoot folder : Path}
  {wantsOverlay : Bool}

/-- To fill in an overlay folder is to resolve it and to add what it comes to. A folder that is
skipped leaves the count as it was, which has to be zero then. -/
theorem addOverlay_eq (draft : Draft) (hcount : draft.overlayCount = 0) :
    draft.addOverlay world config folder =
      (resolveOverlay world config folder).andThen fun overlay =>
        Run.done (draft.withOverlay overlay, overlay.paths) := by
  simp only [addOverlay, resolveOverlay, Run.bind_eq, Run.pure_eq, Run.andThen_andThen]
  congr 1
  funext _
  congr 1
  funext attempted
  cases attempted with
  | ok part =>
    rw [Run.done_andThen]
    rfl
  | error failure =>
    dsimp only
    rw [Run.andThen_andThen]
    simp only [Run.done_andThen, withOverlay, List.length_nil, hcount]

theorem seekOverlay_eq (draft : Draft) (hroot : draft.overlayRoot = none)
    (hcount : draft.overlayCount = 0) :
    draft.seekOverlay world config =
      (overlayPart world config draft.workspace draft.repoRoot).andThen fun overlay =>
        Run.done (draft.withOverlay overlay, overlay.paths) := by
  simp only [seekOverlay, overlayPart, Run.bind_eq, Run.pure_eq, Run.andThen_andThen]
  congr 1
  funext found
  cases found with
  | some folder => exact addOverlay_eq draft hcount
  | none =>
    dsimp only
    simp only [Run.andThen_andThen, Run.done_andThen, withOverlay, List.append_nil, List.length_nil,
      ← hroot, ← hcount]

/-- Field by field comes to the same as all at once, events and processes included. -/
theorem fill_eq (world : World) (config : Config) (workspace repoRoot : Path)
    (wantsOverlay : Bool) :
    fill world config workspace repoRoot wantsOverlay =
      (resolve world config workspace repoRoot wantsOverlay).andThen fun resolution =>
        Run.done resolution.draft := by
  simp only [fill, resolve, Run.bind_eq, Run.pure_eq, Run.andThen_andThen]
  refine Run.andThen_congr fun attempted hattempted => ?_
  cases attempted with
  | error failure =>
    dsimp only
    rw [Run.andThen_andThen]
    rfl
  | ok primary =>
    -- what the resolution calls its workspace is what the primary folder calls itself
    have hprimary := Run.outcome_attempt_eq_ok_ok.mp hattempted
    obtain ⟨-, -, -, hfolder, -⟩ := installed_of_resolveWorkspace hprimary
    dsimp only
    cases hwants : wantsOverlay && config.overlay with
    | false =>
      simp [Run.andThen_andThen, Resolution.draft, Resolved.ofParts, hfolder]
    | true =>
      -- up to here neither the folder of the overlay nor its count was touched
      simp only [if_true]
      rw [seekOverlay_eq _ rfl rfl]
      simp [Run.andThen_andThen, Resolution.draft, Resolved.ofParts, withOverlay, hfolder]

end Draft

/-! ### Errors -/

section

variable {world : World} {config : Config} {workspace repoRoot folder : Path}
  {wantsOverlay : Bool} {raw text : String} {failure : Failure}

theorem ReportFault.message_ne_empty (fault : ReportFault) : fault.message ≠ "" := by
  unfold message
  split <;> simp [toString]

theorem Failure.unavailableText_ne_empty (folder detail : String) :
    unavailableText folder detail ≠ "" := by
  unfold unavailableText
  split <;> simp [toString]

/-- A failure that is borne with has something to say. -/
theorem Failure.message_ne_empty (h : failure.isOfResolving = true) : failure.message ≠ "" := by
  cases failure with
  | sourceUnavailable folder detail => exact unavailableText_ne_empty folder detail
  | malformedReport fault raw => exact fault.message_ne_empty
  | _ => cases h

/-- What is shown of a report: all of it, or its first characters and a mark for the others. -/
inductive Excerpt (raw : String) : String → Prop where
  | whole (h : raw.length ≤ 200) : Excerpt raw raw
  | cut (h : 200 < raw.length) : Excerpt raw (String.ofList (raw.toList.take 200) ++ "…")

theorem excerpt_eq_iff : excerpt raw excerptLimit = text ↔ Excerpt raw text := by
  by_cases hshort : raw.length ≤ 200
  · have hwhole : excerpt raw excerptLimit = raw := if_pos (Int.ofNat_le.mpr hshort)
    rw [hwhole]
    constructor
    · rintro rfl
      exact .whole hshort
    · rintro (_ | hlong)
      · rfl
      · exact absurd hshort (Nat.not_le.mpr hlong)
  · have hcut : excerpt raw excerptLimit = String.ofList (raw.toList.take 200) ++ "…" :=
      if_neg (mt Int.ofNat_le.mp hshort)
    rw [hcut]
    constructor
    · rintro rfl
      exact .cut (Nat.not_le.mp hshort)
    · rintro (hwhole | _)
      · exact absurd hwhole hshort
      · rfl

/-- The beginning of a report is kept exactly where there is a report and it cannot be read. -/
theorem reportExcerpt?_eq_some_iff
    (h : (resolveWorkspace world config folder).outcome = .error failure)
    (hborne : failure.isOfResolving = true) :
    failure.reportExcerpt? = some text ↔
      ∃ raw fault, (queryTree world config.packageManager folder.toString).outcome = .ok raw ∧
        parseReport raw = .error fault ∧ Excerpt raw text := by
  have hends := resolveWorkspace_ends world config folder
  rw [h] at hends
  cases hends with
  | unreported hquery => simp [Failure.reportExcerpt?, hquery]
  | @unreadable raw fault hraw hfault =>
    -- the one fault that is no fault of the report is not borne with
    have hmalformed : Failure.ofReportFault raw fault = .malformedReport fault raw := by
      unfold Failure.ofReportFault at hborne ⊢
      split at hborne
      · cases hborne
      · rfl
    rw [hmalformed, Failure.reportExcerpt?, Option.some.injEq, excerpt_eq_iff]
    simp [hraw, hfault]
  | unlinked => cases hborne

/-! ### Counts and the overlay -/

/-- An overlay without a folder has no paths, and its folder is there. -/
structure OverlayPart.Sound (files : FileSystem) (overlay : OverlayPart) : Prop where
  folder_of_paths : overlay.paths ≠ [] → ∃ folder, overlay.folder = some folder
  isDirectory : ∀ folder, overlay.folder = some folder →
    files.status folder.toString = .ok .directory

theorem OverlayPart.sound_empty (files : FileSystem) : OverlayPart.Sound files {} where
  folder_of_paths := fun h => absurd rfl h
  isDirectory := by
    intro folder h
    cases h

theorem OverlayFound.status {files : FileSystem} {overlayFolder : String}
    (h : OverlayFound files workspace repoRoot overlayFolder folder) :
    files.status folder.toString = .ok .directory := by
  obtain ⟨entry, hstatus, hentry⟩ := FileSystem.ask_eq_true_iff.mp h.2
  cases entry with
  | directory => exact hstatus
  | _ => cases hentry

theorem OverlayPart.sound_of_overlayPart {overlay : OverlayPart}
    (h : (overlayPart world config workspace repoRoot).outcome = .ok overlay) :
    overlay.Sound world.files := by
  have hends := overlayPart_ends world config workspace repoRoot
  rw [h] at hends
  cases hends with
  | absent => exact sound_empty world.files
  | merged hfound | skipped hfound =>
    refine ⟨fun _ => ⟨_, rfl⟩, ?_⟩
    rintro _ ⟨⟩
    exact hfound.status

theorem length_mergePaths_le (primary overlay : List String) :
    (mergePaths primary overlay).length ≤ primary.length + overlay.length := by
  have hsubset : mergePaths primary overlay ⊆ primary ++ overlay :=
    fun path hpath => List.mem_append.mpr (mem_mergePaths.mp hpath)
  have hle := ((mergePaths_nodup primary overlay).subperm hsubset).length_le
  rwa [List.length_append] at hle

theorem mergePaths_eq_nil {primary overlay : List String} :
    mergePaths primary overlay = [] ↔ primary = [] ∧ overlay = [] := by
  simp only [List.eq_nil_iff_forall_not_mem, mem_mergePaths, not_or, forall_and]

/-! ### The two kinds of answers -/

/-- An answer that is an error and nothing else. It shows the beginning of the workspace's report
exactly if there was one and it could not be read. -/
structure Draft.Failed (world : World) (config : Config) (draft : Draft) : Prop where
  error : ∃ text, draft.error = some text ∧ text ≠ ""
  paths : draft.paths = []
  warnings : draft.warnings = []
  primaryCount : draft.primaryCount = 0
  overlayCount : draft.overlayCount = 0
  overlayRoot : draft.overlayRoot = none
  reportExcerpt : ∀ text, draft.reportExcerpt = some text ↔
    ∃ raw fault,
      (queryTree world config.packageManager draft.workspace.toString).outcome = .ok raw ∧
        parseReport raw = .error fault ∧ Excerpt raw text

/-- An answer without an error, whose counts and overlay folder fit its paths. The counts were taken
before repetitions were dropped. -/
structure Draft.Succeeded (files : FileSystem) (draft : Draft) : Prop where
  error : draft.error = none
  reportExcerpt : draft.reportExcerpt = none
  nodup : draft.paths.Nodup
  length_le : draft.paths.length ≤ draft.primaryCount + draft.overlayCount
  counts_of_empty : draft.paths = [] → draft.primaryCount = 0 ∧ draft.overlayCount = 0
  root_of_count : 0 < draft.overlayCount → ∃ folder, draft.overlayRoot = some folder
  isDirectory : ∀ folder, draft.overlayRoot = some folder →
    files.status folder.toString = .ok .directory

theorem Draft.Failed.error_ne_empty {draft : Draft} (h : draft.Failed world config) :
    draft.error ≠ some "" := by
  obtain ⟨text, htext, hsome⟩ := h.error
  rw [htext]
  exact fun heq => hsome (Option.some.inj heq)

theorem Draft.Succeeded.error_ne_empty {files : FileSystem} {draft : Draft}
    (h : draft.Succeeded files) : draft.error ≠ some "" := by
  rw [h.error]
  exact nofun

theorem Draft.succeeded_of_parts {files : FileSystem} (primary : WorkspaceResolution)
    {overlay : OverlayPart} (h : overlay.Sound files) :
    (Resolution.resolved (Resolved.ofParts repoRoot primary overlay)).draft.Succeeded files where
  error := rfl
  reportExcerpt := rfl
  nodup := mergePaths_nodup primary.paths overlay.paths
  length_le := length_mergePaths_le primary.paths overlay.paths
  counts_of_empty := by
    intro hempty
    obtain ⟨hprimary, hoverlay⟩ := mergePaths_eq_nil.mp hempty
    exact ⟨List.length_eq_zero_iff.mpr hprimary, List.length_eq_zero_iff.mpr hoverlay⟩
  root_of_count := fun hcount => h.folder_of_paths (List.length_pos_iff.mp hcount)
  isDirectory := h.isDirectory

/-- Whether there is an error, and whether there is a text in it, is the same question where no
error is empty. -/
theorem Resolution.toMembers_draft {resolution : Resolution}
    (h : resolution.draft.error ≠ some "") :
    resolution.draft.toMembers = resolution.toMembers := by
  cases resolution with
  | resolved result => rfl
  | failed folder root error reportExcerpt =>
    have htext : error ≠ "" := fun heq => h (congrArg some heq)
    have hkept : (some error).filter (· ≠ "") = some error := by
      simp [Option.filter, htext]
    unfold Draft.toMembers Resolution.draft
    rw [hkept]
    rfl

/-- An answer is about the workspace and the repository root that were asked for. -/
theorem Resolution.folders_of_resolve {resolution : Resolution}
    (h : (resolve world config workspace repoRoot wantsOverlay).outcome = .ok resolution) :
    resolution.draft.workspace = workspace ∧ resolution.draft.repoRoot = repoRoot := by
  have hends := resolve_ends world config workspace repoRoot wantsOverlay
  rw [h] at hends
  cases hends with
  | failed => exact ⟨rfl, rfl⟩
  | alone hprimary | overlaid hprimary =>
    obtain ⟨-, -, -, hfolder, -⟩ := installed_of_resolveWorkspace hprimary
    exact ⟨hfolder, rfl⟩

/-- Every answer is of one of the two kinds, and which one it is shows in its error. -/
theorem Resolution.failed_or_succeeded {resolution : Resolution}
    (h : (resolve world config workspace repoRoot wantsOverlay).outcome = .ok resolution) :
    (resolution.draft.Failed world config ∧ resolution.ok = false) ∨
      (resolution.draft.Succeeded world.files ∧ resolution.ok = true) := by
  have hends := resolve_ends world config workspace repoRoot wantsOverlay
  rw [h] at hends
  cases hends with
  | failed hfailure hborne =>
    refine Or.inl ⟨⟨⟨_, rfl, Failure.message_ne_empty hborne⟩, rfl, rfl, rfl, rfl, rfl, ?_⟩, rfl⟩
    intro text
    exact reportExcerpt?_eq_some_iff hfailure hborne
  | @alone primary =>
    exact Or.inr ⟨Draft.succeeded_of_parts primary (OverlayPart.sound_empty world.files), rfl⟩
  | @overlaid primary overlay _ _ hoverlay =>
    exact Or.inr ⟨Draft.succeeded_of_parts primary (OverlayPart.sound_of_overlayPart hoverlay), rfl⟩

end

end ProductionClosure

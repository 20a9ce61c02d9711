import ProductionClosure.Proofs.Resolution.BestEffort

/-!
Two runs for one workspace, with its overlay and without. Where there is no overlay, or where it
fails in a way that is borne with, the two agree in all but what says so: the folder that was
skipped, and one warning behind all others. To switch the overlay off in the settings is to leave it
out of the call.
-/

namespace ProductionClosure

/-- A resolution whose overlay folder is there and was skipped for an error. A workspace that fails
itself never comes to its overlay. -/
def Resolution.skippingOverlay (folder : Path) (error : String) : Resolution → Resolution
  | .resolved result =>
    .resolved { result with
      overlayRoot := some folder
      warnings := result.warnings ++ ["Overlay skipped: " ++ error] }
  | .failed workspace repoRoot message reportExcerpt =>
    .failed workspace repoRoot message reportExcerpt

section

variable {world : World} {config : Config} {workspace repoRoot folder : Path}

/-- The search for an overlay that is not there leaves no trace in the resolution. -/
theorem outcome_resolve_of_no_overlay
    (hnone : (findOverlay world.files workspace repoRoot config.overlayFolder).outcome =
      .ok none) :
    (resolve world config workspace repoRoot true).outcome =
      (resolve world config workspace repoRoot false).outcome := by
  cases hprimary : (resolveWorkspace world config workspace).outcome with
  | error failure =>
    rw [outcome_resolve_of_unresolved true hprimary, outcome_resolve_of_unresolved false hprimary]
  | ok primary =>
    rw [outcome_resolve_without_overlay hprimary (Bool.false_and config.overlay)]
    cases henabled : config.overlay with
    | false =>
      rw [outcome_resolve_without_overlay hprimary ((Bool.true_and _).trans henabled)]
    | true =>
      rw [outcome_resolve_of_enabled hprimary henabled, outcome_overlayPart_of_none hnone]
      rfl

/-- A skipped overlay adds no path and counts none. -/
theorem ofParts_of_skipped (primary : WorkspaceResolution) (error : String) :
    Resolution.resolved (Resolved.ofParts repoRoot primary
        ⟨some folder, [], [Event.overlaySkippedText error]⟩) =
      Resolution.skippingOverlay folder error
        (.resolved (Resolved.ofParts repoRoot primary {})) := by
  simp only [Resolution.skippingOverlay, Resolved.ofParts, List.append_nil]
  rfl

theorem outcome_resolve_of_skipped {failure : Failure} (henabled : config.overlay = true)
    (hfound : OverlayFound world.files workspace repoRoot config.overlayFolder folder)
    (hfailure : (resolveWorkspace world config folder).outcome = .error failure)
    (hborne : failure.isOfResolving = true) :
    (resolve world config workspace repoRoot true).outcome =
      (resolve world config workspace repoRoot false).outcome.map
        (Resolution.skippingOverlay folder failure.message) := by
  cases hprimary : (resolveWorkspace world config workspace).outcome with
  | error cause =>
    -- neither run comes to the overlay
    rw [outcome_resolve_of_unresolved true hprimary, outcome_resolve_of_unresolved false hprimary]
    cases cause.isOfResolving <;> rfl
  | ok primary =>
    rw [outcome_resolve_without_overlay hprimary (Bool.false_and config.overlay),
      outcome_resolve_of_enabled hprimary henabled, outcome_overlayPart_of_found hfound,
      outcome_resolveOverlay_of_borne hfailure hborne]
    exact congrArg Except.ok (ofParts_of_skipped primary failure.message)

/-- A folder is resolved without a look at the switch in the settings, so that this switch does what
the caller's does: not even an event tells the two runs apart. -/
theorem resolve_of_disabled (wantsOverlay : Bool) :
    resolve world { config with overlay := false } workspace repoRoot wantsOverlay =
      resolve world config workspace repoRoot false := by
  have hworkspace : resolveWorkspace world { config with overlay := false } workspace =
      resolveWorkspace world config workspace := rfl
  unfold resolve
  simp only [hworkspace, Bool.and_false, Bool.false_and, Bool.false_eq_true, if_false]

theorem effectiveRepoRoot_of_disabled (registered given : Option Path) :
    effectiveRepoRoot registered workspace given (some { config with overlay := false }) =
      effectiveRepoRoot registered workspace given (some config) := rfl

end

/-! ### An absent and a silent overlay -/

namespace Sample

def absentConfig : Config := { overlayFolder := "p" }

def silentWorld : World := { world with tools := { listings := [("/", listing workspaceReport)] } }

def silenceText : String :=
  "Dependency tree unavailable for /o: ERR_PNPM_NO_IMPORTER_MANIFEST_FOUND"

theorem status_absent : world.files.status "/p" = .error .missing := by
  have hpieces : Text.splitSlash "/p" = ["", "p"] := by decide
  have habsolute : (Path.ofString "/p").isAbsolute = true := by decide
  simp [FileSystem.status, FileSystem.locate, String.contains_char_eq, hpieces, habsolute,
    FileSystem.walk, FileSystem.entry?, FileSystem.maxNameOctets, world]
  decide

theorem findOverlay_absent :
    (findOverlay world.files workspace workspace absentConfig.overlayFolder).outcome =
      .ok none := by
  have hplace : OverlayAt world.files workspace workspace absentConfig.overlayFolder
      ⟨.root, ["p"]⟩ := ⟨workspace, workspace, ⟨.relative, []⟩, rfl, rfl, rfl, rfl⟩
  have htext : (Path.mk .root ["p"]).toString = "/p" := by decide
  have hstatus : world.files.status (Path.mk .root ["p"]).toString = .error .missing := by
    rw [htext, status_absent]
  have hanswer : world.files.isDirectory? ⟨.root, ["p"]⟩ = .ok false := by
    rw [FileSystem.isDirectory?, FileSystem.ask_of_status_error hstatus]
    rfl
  rw [outcome_findOverlay_of_folder (outcome_overlayRoot_eq_some.mpr hplace), FileSystem.answer,
    hanswer]
  rfl

/-- Whatever the overlay holds, the workspace alone is the same. -/
theorem outcome_resolve_alone_of_listing {host : World} (hfiles : host.files = world.files)
    (hlisting : host.tools.listing workspace.toString = listing workspaceReport) :
    (resolve host config workspace workspace false).outcome = .ok (.resolved alone) := by
  have hfolder : host.files.status workspace.toString = .ok .directory := by
    rw [hfiles, status_workspace]
  have hprimary : (resolveWorkspace host config workspace).outcome =
      .ok ⟨workspace, 1, ["/a"], []⟩ :=
    outcome_resolveWorkspace hfolder hlisting reports_workspaceReport (by decide)
  exact outcome_resolve_without_overlay hprimary rfl

theorem outcome_silent_overlay :
    ∃ failure, (resolveWorkspace silentWorld config overlay).outcome = .error failure ∧
      failure.isOfResolving = true ∧ failure.message = silenceText := by
  have hdirectory : silentWorld.files.isDirectoryText overlay.toString = true :=
    FileSystem.isDirectoryText_of_status_ok status_overlay
  have hquery : (queryTree silentWorld config.packageManager overlay.toString).outcome =
      .error (.sourceUnavailable "/o" "ERR_PNPM_NO_IMPORTER_MANIFEST_FOUND") := by
    unfold queryTree
    rw [if_pos hdirectory]
    cbv
  refine ⟨_, outcome_resolveWorkspace_of_no_report hquery, rfl, ?_⟩
  decide

end Sample

/-! ### The two-run law -/

/-- An overlay that is absent changes nothing, one that fails changes nothing but the overlay folder
and a last warning, and one that is switched off in the settings is not wanted. -/
theorem resolve_frames_overlay (world : World) (config : Config) (workspace repoRoot : Path) :
    ((findOverlay world.files workspace repoRoot config.overlayFolder).outcome = .ok none →
      (resolve world config workspace repoRoot true).outcome =
        (resolve world config workspace repoRoot false).outcome) ∧
    (∀ folder failure, config.overlay = true →
      (findOverlay world.files workspace repoRoot config.overlayFolder).outcome =
          .ok (some folder) →
        (resolveWorkspace world config folder).outcome = .error failure →
          failure.isOfResolving = true →
            (resolve world config workspace repoRoot true).outcome =
              (resolve world config workspace repoRoot false).outcome.map
                (Resolution.skippingOverlay folder failure.message)) ∧
    ∀ registered given wantsOverlay,
      resolve world { config with overlay := false } workspace
          (effectiveRepoRoot registered workspace given (some { config with overlay := false }))
          wantsOverlay =
        resolve world config workspace
          (effectiveRepoRoot registered workspace given (some config)) false := by
  refine ⟨outcome_resolve_of_no_overlay, ?_, ?_⟩
  · intro folder failure henabled hfind hfailure hborne
    exact outcome_resolve_of_skipped henabled (outcome_findOverlay_eq_some.mp hfind) hfailure hborne
  · intro registered given wantsOverlay
    rw [effectiveRepoRoot_of_disabled, resolve_of_disabled]

/-- A workspace whose overlay is not there, and the same with an overlay that says nothing. -/
theorem silent_overlay_is_framed :
    (resolve Sample.world Sample.absentConfig Sample.workspace Sample.workspace true).outcome =
        (resolve Sample.world Sample.absentConfig Sample.workspace Sample.workspace
          false).outcome ∧
      (resolve Sample.silentWorld Sample.config Sample.workspace Sample.workspace false).outcome =
        .ok (.resolved Sample.alone) ∧
      (resolve Sample.silentWorld Sample.config Sample.workspace Sample.workspace true).outcome =
        .ok (.resolved { Sample.alone with
          overlayRoot := some Sample.overlay
          warnings := ["Overlay skipped: " ++ Sample.silenceText] }) := by
  have hwithout : (resolve Sample.silentWorld Sample.config Sample.workspace Sample.workspace
      false).outcome = .ok (.resolved Sample.alone) :=
    Sample.outcome_resolve_alone_of_listing rfl rfl
  obtain ⟨failure, hfailure, hborne, hmessage⟩ := Sample.outcome_silent_overlay
  have hfind := outcome_findOverlay_eq_some.mpr Sample.overlayFound
  refine ⟨(resolve_frames_overlay Sample.world Sample.absentConfig Sample.workspace
    Sample.workspace).1 Sample.findOverlay_absent, hwithout, ?_⟩
  rw [(resolve_frames_overlay Sample.silentWorld Sample.config Sample.workspace
    Sample.workspace).2.1 Sample.overlay failure rfl hfind hfailure hborne, hwithout, hmessage]
  rfl

end ProductionClosure

import ProductionClosure.Proofs.Overlay
import ProductionClosure.Proofs.Workspace
import ProductionClosure.Resolution

/-!
The steps of a resolution. What the overlay adds is nothing where there is none, what its folder
comes to where that resolves, and a warning where resolving it fails; every other failure of the
overlay ends the whole run.
-/

namespace ProductionClosure

/-- The overlay cannot be looked for, or what is found there meets a failure that goes beyond
resolving. -/
def OverlayRefused (world : World) (config : Config) (workspace repoRoot : Path) : Prop :=
  OverlayLookupRefused world.files workspace repoRoot config.overlayFolder ∨
    ∃ folder, OverlayFound world.files workspace repoRoot config.overlayFolder folder ∧
      (IntegerRefused world config folder ∨ LinkRefused world config folder)

variable {world : World} {config : Config} {workspace repoRoot folder : Path}

/-! ### The overlay -/

theorem outcome_resolveOverlay_of_ok {part : WorkspaceResolution}
    (h : (resolveWorkspace world config folder).outcome = .ok part) :
    (resolveOverlay world config folder).outcome =
      .ok ⟨some folder, part.paths, part.warnings⟩ := by
  simp only [resolveOverlay, Run.bind_eq, Run.outcome_report_andThen]
  rw [Run.outcome_andThen_of_ok (Run.outcome_attempt_of_ok h)]
  rfl

/-- A failure of resolving leaves a warning behind. -/
theorem outcome_resolveOverlay_of_borne {failure : Failure}
    (h : (resolveWorkspace world config folder).outcome = .error failure)
    (hborne : failure.isOfResolving = true) :
    (resolveOverlay world config folder).outcome =
      .ok ⟨some folder, [], [Event.overlaySkippedText failure.message]⟩ := by
  simp only [resolveOverlay, Run.bind_eq, Run.outcome_report_andThen]
  rw [Run.outcome_andThen_of_ok (Run.outcome_attempt_eq_ok_error.mpr ⟨h, hborne⟩)]
  rfl

theorem outcome_resolveOverlay_of_passed {failure : Failure}
    (h : (resolveWorkspace world config folder).outcome = .error failure)
    (hpassed : failure.isOfResolving = false) :
    (resolveOverlay world config folder).outcome = .error failure := by
  simp only [resolveOverlay, Run.bind_eq, Run.outcome_report_andThen]
  exact Run.outcome_andThen_of_error (Run.outcome_attempt_eq_error.mpr ⟨h, hpassed⟩) _

theorem outcome_overlayPart_of_none
    (h : (findOverlay world.files workspace repoRoot config.overlayFolder).outcome = .ok none) :
    (overlayPart world config workspace repoRoot).outcome = .ok {} := by
  -- the place is worked out once more for the report, and comes out as it did in the search
  have hsteps := h
  simp only [findOverlay, Run.bind_eq] at hsteps
  obtain ⟨candidate, hroot, -⟩ := Run.outcome_andThen_eq_ok.mp hsteps
  simp only [overlayPart, Run.bind_eq]
  rw [Run.outcome_andThen_of_ok h]
  simp only [Run.outcome_andThen_of_ok hroot, Run.outcome_report_andThen]
  rfl

theorem outcome_overlayPart_of_found
    (h : OverlayFound world.files workspace repoRoot config.overlayFolder folder) :
    (overlayPart world config workspace repoRoot).outcome =
      (resolveOverlay world config folder).outcome := by
  simp only [overlayPart, Run.bind_eq]
  rw [Run.outcome_andThen_of_ok (outcome_findOverlay_eq_some.mpr h)]

inductive OverlayEnds (world : World) (config : Config) (workspace repoRoot : Path) :
    Except Failure OverlayPart → Prop where
  | unsearchable {failure : Failure}
      (hrefused : OverlayLookupRefused world.files workspace repoRoot config.overlayFolder)
      (hpassed : failure.isOfResolving = false) :
      OverlayEnds world config workspace repoRoot (.error failure)
  | absent
      (h : ∀ folder, ¬ OverlayFound world.files workspace repoRoot config.overlayFolder folder) :
      OverlayEnds world config workspace repoRoot (.ok {})
  | merged {folder : Path} {part : WorkspaceResolution}
      (hfound : OverlayFound world.files workspace repoRoot config.overlayFolder folder)
      (hpart : (resolveWorkspace world config folder).outcome = .ok part) :
      OverlayEnds world config workspace repoRoot (.ok ⟨some folder, part.paths, part.warnings⟩)
  | skipped {folder : Path} {failure : Failure}
      (hfound : OverlayFound world.files workspace repoRoot config.overlayFolder folder)
      (hfailure : (resolveWorkspace world config folder).outcome = .error failure)
      (hborne : failure.isOfResolving = true) :
      OverlayEnds world config workspace repoRoot
        (.ok ⟨some folder, [], [Event.overlaySkippedText failure.message]⟩)
  | failed {folder : Path} {failure : Failure}
      (hfound : OverlayFound world.files workspace repoRoot config.overlayFolder folder)
      (hfailure : (resolveWorkspace world config folder).outcome = .error failure)
      (hpassed : failure.isOfResolving = false) :
      OverlayEnds world config workspace repoRoot (.error failure)

/-- Everything that the step can come to; what is said of the overlay is read off these five
cases. -/
theorem overlayPart_ends (world : World) (config : Config) (workspace repoRoot : Path) :
    OverlayEnds world config workspace repoRoot
      (overlayPart world config workspace repoRoot).outcome := by
  cases hfind : (findOverlay world.files workspace repoRoot config.overlayFolder).outcome with
  | error failure =>
    obtain ⟨hrefused, hpassed⟩ := refused_of_findOverlay hfind
    simp only [overlayPart, Run.bind_eq, Run.outcome_andThen_of_error hfind]
    exact .unsearchable hrefused hpassed
  | ok found =>
    cases found with
    | none =>
      rw [outcome_overlayPart_of_none hfind]
      refine .absent ?_
      intro folder hfound
      rw [outcome_findOverlay_eq_some.mpr hfound] at hfind
      cases hfind
    | some folder =>
      have hfound := outcome_findOverlay_eq_some.mp hfind
      rw [outcome_overlayPart_of_found hfound]
      cases hpart : (resolveWorkspace world config folder).outcome with
      | ok part =>
        rw [outcome_resolveOverlay_of_ok hpart]
        exact .merged hfound hpart
      | error failure =>
        cases hborne : failure.isOfResolving with
        | true =>
          rw [outcome_resolveOverlay_of_borne hpart hborne]
          exact .skipped hfound hpart hborne
        | false =>
          rw [outcome_resolveOverlay_of_passed hpart hborne]
          exact .failed hfound hpart hborne

/-- A failure that comes through has one of the listed causes, and is never one of resolving. -/
theorem refused_of_overlayPart {failure : Failure}
    (h : (overlayPart world config workspace repoRoot).outcome = .error failure) :
    OverlayRefused world config workspace repoRoot ∧ failure.isOfResolving = false := by
  have hends := overlayPart_ends world config workspace repoRoot
  rw [h] at hends
  cases hends with
  | unsearchable hrefused hpassed => exact ⟨Or.inl hrefused, hpassed⟩
  | failed hfound hfailure hpassed =>
    have hcause := exists_error_resolveWorkspace_iff.mp ⟨failure, hfailure, hpassed⟩
    exact ⟨Or.inr ⟨_, hfound, hcause⟩, hpassed⟩

theorem exists_error_overlayPart (h : OverlayRefused world config workspace repoRoot) :
    ∃ failure, (overlayPart world config workspace repoRoot).outcome = .error failure := by
  rcases h with hlookup | ⟨folder, hfound, hcause⟩
  · obtain ⟨failure, hfailure⟩ := exists_error_findOverlay hlookup
    refine ⟨failure, ?_⟩
    simp only [overlayPart, Run.bind_eq, Run.outcome_andThen_of_error hfailure]
  · obtain ⟨failure, hfailure, hpassed⟩ := exists_error_resolveWorkspace_iff.mpr hcause
    refine ⟨failure, ?_⟩
    rw [outcome_overlayPart_of_found hfound, outcome_resolveOverlay_of_passed hfailure hpassed]

/-! ### The resolution -/

/-- A workspace that fails itself comes to the same, whether its overlay is wanted or not. -/
theorem outcome_resolve_of_unresolved {failure : Failure} (wantsOverlay : Bool)
    (h : (resolveWorkspace world config workspace).outcome = .error failure) :
    (resolve world config workspace repoRoot wantsOverlay).outcome =
      if failure.isOfResolving then
        .ok (.failed workspace repoRoot failure.message failure.reportExcerpt?)
      else .error failure := by
  simp only [resolve, Run.bind_eq]
  cases hborne : failure.isOfResolving with
  | true =>
    rw [Run.outcome_andThen_of_ok (Run.outcome_attempt_eq_ok_error.mpr ⟨h, hborne⟩)]
    rfl
  | false =>
    rw [Run.outcome_andThen_of_error (Run.outcome_attempt_eq_error.mpr ⟨h, hborne⟩)]
    rfl

theorem outcome_resolve_without_overlay {wantsOverlay : Bool} {primary : WorkspaceResolution}
    (hprimary : (resolveWorkspace world config workspace).outcome = .ok primary)
    (hwants : (wantsOverlay && config.overlay) = false) :
    (resolve world config workspace repoRoot wantsOverlay).outcome =
      .ok (.resolved (Resolved.ofParts repoRoot primary {})) := by
  simp only [resolve, Run.bind_eq]
  rw [Run.outcome_andThen_of_ok (Run.outcome_attempt_of_ok hprimary)]
  simp only [hwants]
  rfl

/-- With its overlay the workspace is what it is alone, and behind it what the overlay adds. -/
theorem outcome_resolve_with_overlay {wantsOverlay : Bool} {primary : WorkspaceResolution}
    (hprimary : (resolveWorkspace world config workspace).outcome = .ok primary)
    (hwants : (wantsOverlay && config.overlay) = true) :
    (resolve world config workspace repoRoot wantsOverlay).outcome =
      (overlayPart world config workspace repoRoot).outcome.map fun overlay =>
        .resolved (Resolved.ofParts repoRoot primary overlay) := by
  simp only [resolve, Run.bind_eq]
  rw [Run.outcome_andThen_of_ok (Run.outcome_attempt_of_ok hprimary)]
  simp only [hwants, if_true]
  cases hpart : (overlayPart world config workspace repoRoot).outcome with
  | ok overlay =>
    rw [Run.outcome_andThen_of_ok hpart]
    rfl
  | error failure =>
    rw [Run.outcome_andThen_of_error hpart]
    rfl

/-- The overlay of a call that wants it, under settings that leave it on. -/
theorem outcome_resolve_of_enabled {primary : WorkspaceResolution}
    (hprimary : (resolveWorkspace world config workspace).outcome = .ok primary)
    (henabled : config.overlay = true) :
    (resolve world config workspace repoRoot true).outcome =
      (overlayPart world config workspace repoRoot).outcome.map fun overlay =>
        .resolved (Resolved.ofParts repoRoot primary overlay) :=
  outcome_resolve_with_overlay hprimary ((Bool.true_and _).trans henabled)

/-- How a resolution ends. -/
inductive ResolutionEnds (world : World) (config : Config) (workspace repoRoot : Path)
    (wantsOverlay : Bool) : Except Failure Resolution → Prop where
  | refused {failure : Failure}
      (hfailure : (resolveWorkspace world config workspace).outcome = .error failure)
      (hpassed : failure.isOfResolving = false) :
      ResolutionEnds world config workspace repoRoot wantsOverlay (.error failure)
  | failed {failure : Failure}
      (hfailure : (resolveWorkspace world config workspace).outcome = .error failure)
      (hborne : failure.isOfResolving = true) :
      ResolutionEnds world config workspace repoRoot wantsOverlay
        (.ok (.failed workspace repoRoot failure.message failure.reportExcerpt?))
  | alone {primary : WorkspaceResolution}
      (hprimary : (resolveWorkspace world config workspace).outcome = .ok primary)
      (hwants : (wantsOverlay && config.overlay) = false) :
      ResolutionEnds world config workspace repoRoot wantsOverlay
        (.ok (.resolved (Resolved.ofParts repoRoot primary {})))
  | overlaid {primary : WorkspaceResolution} {overlay : OverlayPart}
      (hprimary : (resolveWorkspace world config workspace).outcome = .ok primary)
      (hwants : (wantsOverlay && config.overlay) = true)
      (hoverlay : (overlayPart world config workspace repoRoot).outcome = .ok overlay) :
      ResolutionEnds world config workspace repoRoot wantsOverlay
        (.ok (.resolved (Resolved.ofParts repoRoot primary overlay)))
  | overlayRefused {primary : WorkspaceResolution} {failure : Failure}
      (hprimary : (resolveWorkspace world config workspace).outcome = .ok primary)
      (hwants : (wantsOverlay && config.overlay) = true)
      (hoverlay : (overlayPart world config workspace repoRoot).outcome = .error failure) :
      ResolutionEnds world config workspace repoRoot wantsOverlay (.error failure)

/-- Everything that a resolution can come to. -/
theorem resolve_ends (world : World) (config : Config) (workspace repoRoot : Path)
    (wantsOverlay : Bool) :
    ResolutionEnds world config workspace repoRoot wantsOverlay
      (resolve world config workspace repoRoot wantsOverlay).outcome := by
  cases hprimary : (resolveWorkspace world config workspace).outcome with
  | error failure =>
    rw [outcome_resolve_of_unresolved wantsOverlay hprimary]
    cases hborne : failure.isOfResolving with
    | true => exact .failed hprimary hborne
    | false => exact .refused hprimary hborne
  | ok primary =>
    cases hwants : wantsOverlay && config.overlay with
    | false =>
      rw [outcome_resolve_without_overlay hprimary hwants]
      exact .alone hprimary hwants
    | true =>
      rw [outcome_resolve_with_overlay hprimary hwants]
      cases hoverlay : (overlayPart world config workspace repoRoot).outcome with
      | ok overlay => exact .overlaid hprimary hwants hoverlay
      | error failure => exact .overlayRefused hprimary hwants hoverlay

/-- A workspace is resolved only where its own folder is. -/
theorem exists_primary_of_resolve {wantsOverlay : Bool} {result : Resolved}
    (h : (resolve world config workspace repoRoot wantsOverlay).outcome =
      .ok (.resolved result)) :
    ∃ primary, (resolveWorkspace world config workspace).outcome = .ok primary := by
  have hends := resolve_ends world config workspace repoRoot wantsOverlay
  rw [h] at hends
  cases hends with
  | alone hprimary | overlaid hprimary => exact ⟨_, hprimary⟩

end ProductionClosure

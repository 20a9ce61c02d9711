import ProductionClosure.Proofs.Path
import ProductionClosure.Proofs.Resolution.Paths

/-!
How far the overlay is borne with. Where it can be looked for and nothing beyond resolving goes
wrong in it, the resolution keeps all that the workspace has without it and only adds to it. The
other failures are not caught: a name too long on the way to the overlay or among its links, a NUL
on the way to its real path, an integer in its report that the number reader refuses. Each of them
takes the workspace's own paths away with it.
-/

namespace ProductionClosure

/-! ### A refused overlay folder -/

namespace Sample

/-- A name one octet too long for a folder. -/
def longName : String := String.ofList (List.replicate 256 'x')

def longConfig : Config := { overlayFolder := longName }

def alone : Resolved := ⟨workspace, workspace, ["/a"], 1, none, 0, []⟩

theorem not_mem_longName {c : Char} (h : c ≠ 'x') : c ∉ longName.toList := by
  have hlist : longName.toList = List.replicate 256 'x' := String.toList_ofList
  rw [hlist, List.mem_replicate]
  exact fun hmem => h hmem.2

theorem size_longName : longName.utf8ByteSize = 256 := by decide +kernel

theorem longName_ne {short : String} (hshort : short.utf8ByteSize < 256) : longName ≠ short := by
  intro heq
  rw [← heq, size_longName] at hshort
  exact Nat.lt_irrefl 256 hshort

theorem isSegment_longName : Path.isSegment longName = true :=
  Path.isSegment_eq_true.mpr ⟨longName_ne (by decide), longName_ne (by decide)⟩

theorem overlayAt_longName :
    OverlayAt world.files workspace workspace longConfig.overlayFolder ⟨.root, [longName]⟩ := by
  refine ⟨workspace, workspace, ⟨.relative, []⟩, rfl, rfl, rfl, ?_⟩
  have hfolder : workspace / Path.ofString longName = ⟨.root, [longName]⟩ := by
    rw [Path.div_of_no_slash workspace (not_mem_longName (by decide))]
    simp [workspace, isSegment_longName]
  show workspace / Path.ofString longName / ⟨.relative, []⟩ = ⟨.root, [longName]⟩
  rw [hfolder]
  rfl

theorem refused_longName : OverlayRefused world longConfig workspace workspace := by
  refine Or.inl (.folder overlayAt_longName ?_)
  have htext : (Path.mk .root [longName]).toString = "/" ++ longName := by
    rw [Path.toString_of_segments (List.cons_ne_nil longName []), String.intercalate_singleton]
    rfl
  rw [htext]
  refine FileSystem.status_of_long_name ?_ (not_mem_longName (by decide))
    (not_mem_longName (by decide))
  rw [size_longName]
  decide

theorem outcome_resolve_alone (config : Config)
    (h : StorePath.packageName? config.layout "/a" = none) :
    (resolve world config workspace workspace false).outcome = .ok (.resolved alone) :=
  outcome_resolve_without_overlay (outcome_workspace h) rfl

end Sample

/-! ### With and without the overlay -/

section

variable {world : World} {config : Config} {workspace repoRoot : Path}

/-- The overlay adds behind what the workspace shows alone. -/
theorem ofParts_extends (primary : WorkspaceResolution) (overlay : OverlayPart) :
    (Resolved.ofParts repoRoot primary {}).paths <+:
        (Resolved.ofParts repoRoot primary overlay).paths ∧
      (Resolved.ofParts repoRoot primary {}).warnings <+:
        (Resolved.ofParts repoRoot primary overlay).warnings := by
  constructor
  · show mergePaths primary.paths [] <+: mergePaths primary.paths overlay.paths
    rw [mergePaths_eq_append primary.paths overlay.paths]
    exact List.prefix_append _ _
  · show primary.warnings ++ [] <+: primary.warnings ++ overlay.warnings
    rw [List.append_nil]
    exact List.prefix_append _ _

/-- An overlay that is not refused only adds to a resolution, and one that is refused ends the run
with a failure that nobody bears with. -/
theorem overlay_extends_or_fails {without : Resolution}
    (h : (resolve world config workspace repoRoot false).outcome = .ok without)
    (hok : without.ok = true) :
    (¬ (config.overlay = true ∧ OverlayRefused world config workspace repoRoot) →
      ∃ result, (resolve world config workspace repoRoot true).outcome = .ok result ∧
        result.ok = true ∧ without.paths <+: result.paths ∧
        without.warnings <+: result.warnings) ∧
    (config.overlay = true ∧ OverlayRefused world config workspace repoRoot →
      ∃ failure, (resolve world config workspace repoRoot true).outcome = .error failure ∧
        failure.isOfResolving = false) := by
  cases without with
  | failed => cases hok
  | resolved alone =>
    obtain ⟨primary, hprimary⟩ := exists_primary_of_resolve h
    have halone : alone = Resolved.ofParts repoRoot primary {} := by
      rw [outcome_resolve_without_overlay hprimary rfl] at h
      cases h
      rfl
    subst halone
    have hwants : (true && config.overlay) = config.overlay := Bool.true_and config.overlay
    constructor
    · intro hnot
      cases henabled : config.overlay with
      | false =>
        rw [outcome_resolve_without_overlay hprimary (hwants.trans henabled)]
        exact ⟨_, rfl, rfl, List.prefix_refl _, List.prefix_refl _⟩
      | true =>
        rw [outcome_resolve_with_overlay hprimary (hwants.trans henabled)]
        cases hpart : (overlayPart world config workspace repoRoot).outcome with
        | error failure => exact absurd ⟨henabled, (refused_of_overlayPart hpart).1⟩ hnot
        | ok overlay => exact ⟨_, rfl, rfl, ofParts_extends primary overlay⟩
    · rintro ⟨henabled, hrefused⟩
      obtain ⟨failure, hfailure⟩ := exists_error_overlayPart hrefused
      refine ⟨failure, ?_, (refused_of_overlayPart hfailure).2⟩
      rw [outcome_resolve_with_overlay hprimary (hwants.trans henabled), hfailure]
      rfl

end

/-- An overlay folder with a name too long ends the run. -/
theorem refused_overlay_fails :
    (resolve Sample.world Sample.longConfig Sample.workspace Sample.workspace false).outcome =
        .ok (.resolved Sample.alone) ∧
      ∃ failure, (resolve Sample.world Sample.longConfig Sample.workspace Sample.workspace
          true).outcome = .error failure ∧ failure.isOfResolving = false :=
  have halone := Sample.outcome_resolve_alone Sample.longConfig (by decide)
  ⟨halone, (overlay_extends_or_fails halone rfl).2 ⟨rfl, Sample.refused_longName⟩⟩

/-- The overlay can take the workspace's own paths away. -/
theorem overlay_not_best_effort :
    ¬ ∀ (world : World) (config : Config) (workspace repoRoot : Path) (without : Resolution),
      (resolve world config workspace repoRoot false).outcome = .ok without →
        without.ok = true →
          ∃ result, (resolve world config workspace repoRoot true).outcome = .ok result ∧
            result.ok = true ∧ without.paths <+: result.paths ∧
            without.warnings <+: result.warnings := by
  intro hextends
  have halone := Sample.outcome_resolve_alone Sample.longConfig (by decide)
  obtain ⟨result, hresult, -⟩ := hextends _ _ _ _ _ halone rfl
  obtain ⟨failure, hfailure⟩ := exists_error_overlayPart Sample.refused_longName
  rw [outcome_resolve_with_overlay (Sample.outcome_workspace (by decide)) rfl, hfailure] at hresult
  cases hresult

end ProductionClosure

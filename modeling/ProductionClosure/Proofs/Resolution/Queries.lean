import ProductionClosure.Proofs.Process
import ProductionClosure.Proofs.Resolution.Paths

/-!
The processes that a resolution starts. All of them are queries for the dependencies of a folder, run
in that folder: one in the workspace if that is a folder at all, and behind it one in the overlay if
the workspace resolved, its overlay is wanted and its folder is there. How a query turns out decides
whether there is a next one, and never leads to its repetition.
-/

namespace ProductionClosure

/-! ### The query -/

def treeQuery (world : World) (config : Config) (folder : Path) : Call where
  command := world.tools.platform.executable config.packageManager :: Listing.arguments
  folder := some folder.toString
  environment := some (world.environment.over productionEnvironment)

/-- A query says that production is meant, and passes every other variable on. -/
theorem lookup_over_production (environment : Environment) (name : String) :
    (environment.over productionEnvironment).lookup name =
      if name = "NODE_ENV" then some "production" else environment.lookup name :=
  environment.lookup_set "NODE_ENV" "production" name

section

variable {world : World} {config : Config} {workspace repoRoot folder : Path}
  {wantsOverlay : Bool}

/-- Queries differ in the text of their folder alone. -/
theorem treeQuery_inj {other : Path} :
    treeQuery world config folder = treeQuery world config other ↔
      folder.toString = other.toString := by
  simp [treeQuery]

/-! ### Steps that start nothing -/

theorem calls_usable (executable text : String) (listing : Listing) :
    (listing.usable executable text).calls = [] := by
  cases listing with
  | notStarted | refused => rfl
  | ended output complaints code =>
    rw [Listing.usable]
    split
    · rfl
    · split <;> rfl

theorem calls_readEntriesOf (raw : String) : (readEntriesOf raw).calls = [] := by
  refine Run.calls_andThen_eq_nil rfl ?_
  intro entries
  rfl

theorem calls_warnOfNoEntries (entries : List WorkspaceEntry) :
    (warnOfNoEntries folder entries).calls = [] := by
  unfold warnOfNoEntries
  split <;> rfl

theorem calls_collectClosure (entries : List WorkspaceEntry) :
    (collectClosure entries).calls = [] := rfl

theorem calls_placements (files : FileSystem) (layout : StoreLayout) (paths : List String) :
    (placements files workspace layout paths).calls = [] := by
  induction paths with
  | nil => rfl
  | cons path rest ih =>
    refine Run.calls_andThen_eq_nil rfl fun place => ?_
    refine Run.calls_andThen_eq_nil ?_ fun _ => Run.calls_andThen_eq_nil ih fun _ => rfl
    cases place <;> rfl

theorem calls_hoist (files : FileSystem) (layout : StoreLayout) (paths : List String) :
    (hoist files workspace layout paths).calls = [] :=
  Run.calls_andThen_eq_nil (calls_placements files layout paths) fun _ => rfl

theorem calls_overlayRoot (files : FileSystem) (overlayFolder : String) :
    (overlayRoot files workspace repoRoot overlayFolder).calls = [] := by
  refine Run.calls_andThen_eq_nil rfl fun realWorkspace => ?_
  refine Run.calls_andThen_eq_nil rfl fun realRoot => ?_
  cases realWorkspace.relativeTo? realRoot <;> rfl

theorem calls_findOverlay (files : FileSystem) (overlayFolder : String) :
    (findOverlay files workspace repoRoot overlayFolder).calls = [] := by
  refine Run.calls_andThen_eq_nil (calls_overlayRoot files overlayFolder) fun found => ?_
  cases found with
  | none => rfl
  | some folder =>
    refine Run.calls_andThen_eq_nil rfl fun there => ?_
    cases there <;> rfl

/-! ### One folder -/

/-- A folder that is there is asked once, whatever comes of it. -/
theorem calls_resolveWorkspace (world : World) (config : Config) (folder : Path) :
    (resolveWorkspace world config folder).calls =
      if world.files.isDirectoryText folder.toString then [treeQuery world config folder]
      else [] := by
  have hquery : (resolveWorkspace world config folder).calls =
      (queryTree world config.packageManager folder.toString).calls := by
    refine Run.calls_andThen_of_silent_rest _ fun raw => ?_
    refine Run.calls_andThen_eq_nil (calls_readEntriesOf raw) fun entries => ?_
    refine Run.calls_andThen_eq_nil (calls_warnOfNoEntries entries) fun warnings => ?_
    refine Run.calls_andThen_eq_nil (calls_collectClosure entries) fun paths => ?_
    exact Run.calls_andThen_eq_nil (calls_hoist _ _ _) fun _ => rfl
  rw [hquery, queryTree]
  split
  · exact Run.calls_andThen_of_silent_rest _ (calls_usable _ _)
  · rfl

/-- Only a folder resolves. -/
theorem isDirectoryText_of_resolveWorkspace {part : WorkspaceResolution}
    (h : (resolveWorkspace world config folder).outcome = .ok part) :
    world.files.isDirectoryText folder.toString = true := by
  obtain ⟨_, ⟨raw, -, hraw, -⟩, -⟩ := installed_of_resolveWorkspace h
  by_contra hfolder
  unfold queryTree at hraw
  rw [if_neg hfolder] at hraw
  cases hraw

theorem isDirectoryText_of_found
    (h : OverlayFound world.files workspace repoRoot config.overlayFolder folder) :
    world.files.isDirectoryText folder.toString = true := by
  obtain ⟨entry, hstatus, hentry⟩ := FileSystem.ask_eq_true_iff.mp h.2
  rw [FileSystem.isDirectoryText_of_status_ok hstatus, hentry]

/-! ### The overlay -/

theorem calls_resolveOverlay (world : World) (config : Config) (folder : Path) :
    (resolveOverlay world config folder).calls = (resolveWorkspace world config folder).calls := by
  simp only [resolveOverlay, Run.bind_eq, Run.calls_report_andThen]
  rw [Run.calls_andThen_of_silent_rest, Run.calls_attempt]
  intro attempted
  cases attempted <;> rfl

theorem calls_overlayPart_of_found
    (h : OverlayFound world.files workspace repoRoot config.overlayFolder folder) :
    (overlayPart world config workspace repoRoot).calls = [treeQuery world config folder] := by
  simp only [overlayPart, Run.bind_eq]
  rw [Run.calls_andThen_of_silent (calls_findOverlay _ _) (outcome_findOverlay_eq_some.mpr h)]
  dsimp only
  rw [calls_resolveOverlay, calls_resolveWorkspace, if_pos (isDirectoryText_of_found h)]

theorem calls_overlayPart_of_not_found
    (h : ∀ folder, ¬ OverlayFound world.files workspace repoRoot config.overlayFolder folder) :
    (overlayPart world config workspace repoRoot).calls = [] := by
  simp only [overlayPart, Run.bind_eq]
  cases hfind : (findOverlay world.files workspace repoRoot config.overlayFolder).outcome with
  | error failure => rw [Run.calls_andThen_of_error hfind, calls_findOverlay]
  | ok found =>
    rw [Run.calls_andThen_of_silent (calls_findOverlay _ _) hfind]
    cases found with
    | some folder => exact absurd (outcome_findOverlay_eq_some.mp hfind) (h folder)
    | none => exact Run.calls_andThen_eq_nil (calls_overlayRoot _ _) fun _ => rfl

/-! ### The resolution -/

/-- The folder of an overlay that is asked: the workspace resolved, both the caller and the settings
want the overlay, and its folder is there. -/
structure OverlayQueried (world : World) (config : Config) (workspace repoRoot : Path)
    (wantsOverlay : Bool) (folder : Path) : Prop where
  resolved : ∃ primary, (resolveWorkspace world config workspace).outcome = .ok primary
  wanted : wantsOverlay = true
  enabled : config.overlay = true
  found : OverlayFound world.files workspace repoRoot config.overlayFolder folder

/-- The folders that are asked, in order. -/
inductive Queried (world : World) (config : Config) (workspace repoRoot : Path)
    (wantsOverlay : Bool) : List Path → Prop where
  | nothing (h : world.files.isDirectoryText workspace.toString = false) :
      Queried world config workspace repoRoot wantsOverlay []
  | alone (hfolder : world.files.isDirectoryText workspace.toString = true)
      (h : ∀ folder, ¬ OverlayQueried world config workspace repoRoot wantsOverlay folder) :
      Queried world config workspace repoRoot wantsOverlay [workspace]
  | overlaid {folder : Path}
      (h : OverlayQueried world config workspace repoRoot wantsOverlay folder) :
      Queried world config workspace repoRoot wantsOverlay [workspace, folder]

theorem OverlayQueried.unique {other : Path}
    (h : OverlayQueried world config workspace repoRoot wantsOverlay folder)
    (hother : OverlayQueried world config workspace repoRoot wantsOverlay other) : folder = other :=
  h.found.1.unique hother.found.1

theorem OverlayQueried.isDirectoryText
    (h : OverlayQueried world config workspace repoRoot wantsOverlay folder) :
    world.files.isDirectoryText workspace.toString = true := by
  obtain ⟨primary, hprimary⟩ := h.resolved
  exact isDirectoryText_of_resolveWorkspace hprimary

theorem calls_resolve_of_unresolved {failure : Failure}
    (h : (resolveWorkspace world config workspace).outcome = .error failure) :
    (resolve world config workspace repoRoot wantsOverlay).calls =
      (resolveWorkspace world config workspace).calls := by
  simp only [resolve, Run.bind_eq]
  cases hborne : failure.isOfResolving with
  | true =>
    rw [Run.calls_andThen_of_ok (Run.outcome_attempt_eq_ok_error.mpr ⟨h, hborne⟩),
      Run.calls_attempt]
    exact List.append_nil _
  | false =>
    rw [Run.calls_andThen_of_error (Run.outcome_attempt_eq_error.mpr ⟨h, hborne⟩),
      Run.calls_attempt]

/-- Behind a workspace that resolves comes what its overlay starts, if that is wanted. -/
theorem calls_resolve_of_resolved {primary : WorkspaceResolution}
    (h : (resolveWorkspace world config workspace).outcome = .ok primary) :
    (resolve world config workspace repoRoot wantsOverlay).calls =
      treeQuery world config workspace ::
        if wantsOverlay && config.overlay then
          (overlayPart world config workspace repoRoot).calls
        else [] := by
  simp only [resolve, Run.bind_eq]
  rw [Run.calls_andThen_of_ok (Run.outcome_attempt_of_ok h), Run.calls_attempt,
    calls_resolveWorkspace, if_pos (isDirectoryText_of_resolveWorkspace h), List.singleton_append]
  congr 1
  dsimp only
  split
  · exact Run.calls_andThen_of_silent_rest _ fun _ => rfl
  · rfl

/-- A resolution asks the folders that it has to, and nothing else. -/
theorem exists_queried (world : World) (config : Config) (workspace repoRoot : Path)
    (wantsOverlay : Bool) :
    ∃ folders, Queried world config workspace repoRoot wantsOverlay folders ∧
      (resolve world config workspace repoRoot wantsOverlay).calls =
        folders.map (treeQuery world config) := by
  cases hprimary : (resolveWorkspace world config workspace).outcome with
  | error failure =>
    have hnot : ∀ folder, ¬ OverlayQueried world config workspace repoRoot wantsOverlay folder := by
      intro folder h
      obtain ⟨primary, hresolved⟩ := h.resolved
      rw [hprimary] at hresolved
      cases hresolved
    rw [calls_resolve_of_unresolved hprimary, calls_resolveWorkspace]
    cases hfolder : world.files.isDirectoryText workspace.toString with
    | true => exact ⟨[workspace], .alone hfolder hnot, rfl⟩
    | false => exact ⟨[], .nothing hfolder, rfl⟩
  | ok primary =>
    rw [calls_resolve_of_resolved hprimary]
    by_cases hqueried : ∃ folder, OverlayQueried world config workspace repoRoot wantsOverlay folder
    · obtain ⟨folder, h⟩ := hqueried
      refine ⟨[workspace, folder], .overlaid h, ?_⟩
      rw [h.wanted, h.enabled, calls_overlayPart_of_found h.found]
      rfl
    · have hnot : ∀ folder, ¬ OverlayQueried world config workspace repoRoot wantsOverlay folder :=
        fun folder h => hqueried ⟨folder, h⟩
      refine ⟨[workspace], .alone (isDirectoryText_of_resolveWorkspace hprimary) hnot, ?_⟩
      cases hwants : wantsOverlay && config.overlay with
      | false => rfl
      | true =>
        obtain ⟨hwanted, henabled⟩ := Bool.and_eq_true_iff.mp hwants
        rw [calls_overlayPart_of_not_found fun folder hfound =>
          hnot folder ⟨⟨primary, hprimary⟩, hwanted, henabled, hfound⟩]
        rfl

/-! ### The overlay of a result -/

theorem overlayFolder_eq_some {overlay : OverlayPart}
    (h : (overlayPart world config workspace repoRoot).outcome = .ok overlay) :
    overlay.folder = some folder ↔
      OverlayFound world.files workspace repoRoot config.overlayFolder folder := by
  have hends := overlayPart_ends world config workspace repoRoot
  rw [h] at hends
  cases hends with
  | absent hnone => exact iff_of_false nofun (hnone folder)
  | merged hfound | skipped hfound =>
    constructor
    · intro heq
      cases heq
      exact hfound
    · intro hother
      exact congrArg some (hfound.1.unique hother.1)

/-- The overlay of a result is the folder that was asked behind the workspace. -/
theorem overlayRoot_eq_some {result : Resolved}
    (h : (resolve world config workspace repoRoot wantsOverlay).outcome =
      .ok (.resolved result)) :
    result.overlayRoot = some folder ↔
      OverlayQueried world config workspace repoRoot wantsOverlay folder := by
  have hends := resolve_ends world config workspace repoRoot wantsOverlay
  rw [h] at hends
  cases hends with
  | alone hprimary hwants =>
    refine iff_of_false nofun fun hqueried => ?_
    rw [hqueried.wanted, hqueried.enabled] at hwants
    cases hwants
  | @overlaid primary overlay hprimary hwants hoverlay =>
    obtain ⟨hwanted, henabled⟩ := Bool.and_eq_true_iff.mp hwants
    refine (overlayFolder_eq_some hoverlay).trans ⟨?_, OverlayQueried.found⟩
    exact fun hfound => ⟨⟨primary, hprimary⟩, hwanted, henabled, hfound⟩

namespace Queried

variable {folders : List Path}

theorem eq_nil_iff (h : Queried world config workspace repoRoot wantsOverlay folders) :
    folders = [] ↔ world.files.isDirectoryText workspace.toString = false := by
  cases h with
  | nothing hfolder => simp [hfolder]
  | alone hfolder => simp [hfolder]
  | overlaid hoverlay => simp [hoverlay.isDirectoryText]

theorem eq_pair_iff (h : Queried world config workspace repoRoot wantsOverlay folders) :
    folders = [workspace, folder] ↔
      OverlayQueried world config workspace repoRoot wantsOverlay folder := by
  cases h with
  | nothing hfolder =>
    constructor
    · intro heq
      cases heq
    · intro hoverlay
      rw [hoverlay.isDirectoryText] at hfolder
      cases hfolder
  | alone _ hnot =>
    constructor
    · intro heq
      cases heq
    · exact fun hoverlay => absurd hoverlay (hnot folder)
  | overlaid hother =>
    constructor
    · intro heq
      cases heq
      exact hother
    · intro hoverlay
      rw [hother.unique hoverlay]

/-- Only an overlay in the workspace itself makes the two queries one and the same. -/
theorem nodup_iff (h : Queried world config workspace repoRoot wantsOverlay folders) :
    (folders.map (treeQuery world config)).Nodup ↔
      ∀ folder, OverlayQueried world config workspace repoRoot wantsOverlay folder →
        folder.toString ≠ workspace.toString := by
  cases h with
  | nothing hfolder =>
    refine iff_of_true List.nodup_nil fun folder hoverlay => ?_
    rw [hoverlay.isDirectoryText] at hfolder
    cases hfolder
  | alone _ hnot =>
    exact iff_of_true (List.nodup_singleton _) fun folder hoverlay => absurd hoverlay (hnot folder)
  | @overlaid folder hoverlay =>
    have hpair : ([workspace, folder].map (treeQuery world config)).Nodup ↔
        folder.toString ≠ workspace.toString := by
      simp [treeQuery_inj, eq_comm]
    rw [hpair]
    constructor
    · intro hne other hother
      rwa [← hoverlay.unique hother]
    · intro hne
      exact hne folder hoverlay

end Queried

end

end ProductionClosure

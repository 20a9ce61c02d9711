import ProductionClosure.Proofs.CommandLine.Queries
import ProductionClosure.Proofs.Json.Object

/-!
What is said about the overlay of a workspace, against what resolving the workspace does with it. The
status comes from a search of its own, and resolving looks the overlay up once more; under the same
settings the two find the same folder, so that the one tells what the other will ask.
-/

namespace ProductionClosure.CommandLine

/-! ### The status -/

section

variable {world : World} {config : Config} {workspace repoRoot : Path}

/-- What a status says about the overlay of a workspace. -/
structure OverlayStatus.Tells (status : OverlayStatus) (world : World) (config : Config)
    (workspace repoRoot : Path) : Prop where
  folder : ∀ folder, status.folder = some folder ↔
    OverlayAt world.files workspace repoRoot config.overlayFolder folder
  present : status.isPresent = true ↔
    ∃ folder, OverlayFound world.files workspace repoRoot config.overlayFolder folder
  enabled : status.isEnabled = config.overlay

theorem tells_of_overlayStatus {status : OverlayStatus}
    (h : (overlayStatus world config workspace repoRoot).outcome = .ok status) :
    status.Tells world config workspace repoRoot := by
  simp only [overlayStatus, Run.bind_eq] at h
  obtain ⟨found, hfound, h⟩ := Run.outcome_andThen_eq_ok.mp h
  have hfolder : ∀ folder, found = some folder ↔
      OverlayAt world.files workspace repoRoot config.overlayFolder folder := by
    intro folder
    rw [← outcome_overlayRoot_eq_some, hfound, Except.ok.injEq]
  cases found with
  | none =>
    cases h
    refine ⟨hfolder, iff_of_false nofun ?_, rfl⟩
    rintro ⟨folder, hplace, -⟩
    cases (hfolder folder).mpr hplace
  | some folder =>
    obtain ⟨isPresent, hpresent, h⟩ := Run.outcome_andThen_eq_ok.mp h
    cases h
    have hplace := (hfolder folder).mp rfl
    have hdirectory : world.files.isDirectory? folder = .ok isPresent :=
      Outcome.mapError_eq_ok.mp hpresent
    refine ⟨hfolder, ?_, rfl⟩
    constructor
    · rintro rfl
      exact ⟨folder, hplace, hdirectory⟩
    · rintro ⟨other, hother, hthere⟩
      rw [← hplace.unique hother, hdirectory] at hthere
      cases hthere
      rfl

namespace OverlayStatus.Tells

variable {status : OverlayStatus} {wantsOverlay : Bool} {folder : Path}

/-- The folder of a status is asked where it is there and the overlay is enabled and wanted. -/
theorem queried (h : status.Tells world config workspace repoRoot)
    (hprimary : ∃ primary, (resolveWorkspace world config workspace).outcome = .ok primary)
    (hpresent : status.isPresent = true) (henabled : status.isEnabled = true)
    (hwanted : wantsOverlay = true) :
    ∃ folder, status.folder = some folder ∧
      OverlayQueried world config workspace repoRoot wantsOverlay folder := by
  obtain ⟨folder, hfound⟩ := h.present.mp hpresent
  exact ⟨folder, (h.folder folder).mpr hfound.1, hprimary, hwanted, h.enabled ▸ henabled, hfound⟩

/-- Only such a folder is asked. -/
theorem of_queried (h : status.Tells world config workspace repoRoot)
    (hqueried : OverlayQueried world config workspace repoRoot wantsOverlay folder) :
    status.folder = some folder ∧ status.isPresent = true ∧ status.isEnabled = true ∧
      wantsOverlay = true :=
  ⟨(h.folder folder).mpr hqueried.found.1, h.present.mpr ⟨folder, hqueried.found⟩,
    h.enabled.trans hqueried.enabled, hqueried.wanted⟩

end OverlayStatus.Tells

theorem outcome_overlayStatus_of_found {folder : Path}
    (h : OverlayFound world.files workspace repoRoot config.overlayFolder folder) :
    (overlayStatus world config workspace repoRoot).outcome =
      .ok ⟨workspace, repoRoot, some folder, true, config.overlay⟩ := by
  simp only [overlayStatus, Run.bind_eq]
  rw [Run.outcome_andThen_of_ok (outcome_overlayRoot_eq_some.mpr h.1)]
  simp only [FileSystem.answer, h.2]
  rfl

end

theorem isRecord_status (status : OverlayStatus) :
    ∃ members, status.toJson = .object members ∧ Json.IsRecord members := by
  refine ⟨_, rfl, ?_, ?_⟩
  · show ["workspace", "repo_root", "overlay_root", "exists", "enabled"].Nodup
    decide
  · simp only [List.forall_mem_cons]
    exact ⟨.string _, .string _, Json.isFlat_ofString? _, .bool _, .bool _,
      fun _ hmem => absurd hmem List.not_mem_nil⟩

/-- A status that is printed as an object is read back. -/
theorem decode_status (status : OverlayStatus) :
    Json.decode (line status.toJson.toBlock) = .ok status.toJson := by
  obtain ⟨members, hmembers, hrecord⟩ := isRecord_status status
  rw [hmembers, line_of_visible (Json.visible_toBlock_object hrecord),
    Json.decode_toBlock_object hrecord]

/-! ### The two commands -/

def Start.locating (start : Start) (world : World) (settings : Settings) (workspace : Path)
    (repoRoot : Option Path) : Run OverlayStatus :=
  overlayStatus (start.worldOf world) settings.config (start.files.absolute workspace)
    (start.root settings workspace repoRoot)

section

variable {world : World} {moment moment' : Log.Moment} {registered : Option Path}
  {arguments arguments' : List String} {start start' : Start} {workspace : Path}
  {repoRoot : Option Path} {json wantsOverlay : Bool} {settings : Settings}

theorem Start.outcome_carryOut_overlay
    (hcommand : start.command = .overlay workspace repoRoot json)
    (hsettings : (start.settings world moment).outcome = .ok settings) :
    (start.carryOut world moment registered).2.outcome =
      (start.locating world settings workspace repoRoot).outcome.map fun status =>
        { stdout := if json then line status.toJson.toBlock else lines status.texts } := by
  rw [Start.carryOut_of_ok hsettings, hcommand]
  exact (Run.outcome_andThen_of_ok hsettings _).trans (Run.outcome_andThen_done _ _)

/-- A run of the command that shows the overlay prints a status, or does not exit with 0. -/
theorem Start.exists_status (hcommand : start.command = .overlay workspace repoRoot json)
    (hexit : (start.result world moment registered).exitCode = 0) :
    ∃ settings status, (start.settings world moment).outcome = .ok settings ∧
      (start.locating world settings workspace repoRoot).outcome = .ok status ∧
      (start.result world moment registered).stdout =
        if json then line status.toJson.toBlock else lines status.texts := by
  cases hsettings : (start.settings world moment).outcome with
  | error failure => exact absurd hexit (Start.showsNothing_of_unsettled hsettings).1
  | ok settings =>
    have houtcome : (start.carryOut world moment registered).2.outcome = _ :=
      Start.outcome_carryOut_overlay hcommand hsettings
    cases hstatus : (start.locating world settings workspace repoRoot).outcome with
    | error failure =>
      rw [hstatus] at houtcome
      exact absurd hexit (Result.showsNothing_of_error houtcome).1
    | ok status =>
      rw [hstatus] at houtcome
      refine ⟨settings, status, rfl, hstatus, ?_⟩
      rw [Start.result, Result.ofRun_of_ok houtcome]

/-- Two command lines with the same options in front of their commands, and about the same
workspace, have the same settings. The clock counts only where a log file may be the settings file
as well. -/
theorem Start.settings_eq_of_globals (hstart : Start.Of world arguments start)
    (hstart' : Start.Of world arguments' start')
    (hverbosity : start'.invocation.verbosity = start.invocation.verbosity)
    (hconfig : start'.invocation.configPath = start.invocation.configPath)
    (hfolder : ∀ files, start'.command.start files = start.command.start files)
    (hmoment : moment' = moment ∨ world.environment.value? "PRODEPS_LOG_FILE" = none) :
    start'.settings world moment' = start.settings world moment := by
  obtain ⟨hlogging, hfiles⟩ := hstart.logged_unique hstart' hverbosity
  rcases hmoment with rfl | hfile
  · have hdisk : start'.disk world moment' = start.disk world moment' := by
      funext events
      simp only [Start.disk, Start.records, hlogging, hfiles, hverbosity]
    rw [Start.settings, Start.settings, hdisk, hconfig, hfolder, hfiles]
  · rw [hstart.settings_of_no_log_file hfile, hstart'.settings_of_no_log_file hfile, hconfig,
      hfolder]

end

/-- The status tells what resolving will do. Where the command that shows the overlay exits with 0,
what it prints as an object is a status; and the command that lists the paths of the workspace, with
the same options in front of it and the same repository root behind it, asks the folder of the
status behind the workspace exactly where the workspace resolves, the status has the overlay there
and enabled, and the overlay is wanted. That folder is the overlay of the result. -/
theorem overlay_status_tells_resolve {world : World} {moment moment' : Log.Moment}
    (registered registered' : Option Path) {arguments arguments' : List String}
    {start start' : Start} {workspace : Path} {repoRoot : Option Path} {wantsOverlay json : Bool}
    (hstart : Start.Of world arguments start)
    (hcommand : start.command = .overlay workspace repoRoot true)
    (hstart' : Start.Of world arguments' start')
    (hcommand' : start'.command = .resolve workspace repoRoot wantsOverlay json)
    (hverbosity : start'.invocation.verbosity = start.invocation.verbosity)
    (hconfig : start'.invocation.configPath = start.invocation.configPath)
    (hmoment : moment' = moment ∨ world.environment.value? "PRODEPS_LOG_FILE" = none)
    (hexit : (run world moment registered arguments).exitCode = 0) :
    ∃ (status : OverlayStatus) (settings : Settings),
      Json.decode (run world moment registered arguments).stdout = .ok status.toJson ∧
      (start'.settings world moment').outcome = .ok settings ∧
      let query := treeQuery (start'.worldOf world) settings.config
      let primary := start'.files.absolute workspace
      let resolving := start'.resolving world settings workspace repoRoot wantsOverlay
      let calls := (run world moment' registered' arguments').calls
      ((∃ part, (resolveWorkspace (start'.worldOf world) settings.config primary).outcome =
          .ok part) →
        status.isPresent = true ∧ status.isEnabled = true ∧ wantsOverlay = true →
          ∃ folder, status.folder = some folder ∧ calls = [query primary, query folder] ∧
            ∀ result, resolving.outcome = .ok (.resolved result) →
              result.overlayRoot = some folder) ∧
      (¬ (status.isPresent = true ∧ status.isEnabled = true ∧ wantsOverlay = true) ∨
          status.folder = none →
        (calls = [] ∨ calls = [query primary]) ∧
          ∀ result, resolving.outcome = .ok (.resolved result) → result.overlayRoot = none) := by
  obtain ⟨hlogging, hfiles⟩ := hstart.logged_unique hstart' hverbosity
  have hsame : start'.settings world moment' = start.settings world moment := by
    refine Start.settings_eq_of_globals hstart hstart' hverbosity hconfig (fun files => ?_) hmoment
    rw [hcommand, hcommand']
    rfl
  rw [run_of_start hstart] at hexit ⊢
  obtain ⟨settings, status, hsettings, hstatus, hstdout⟩ := Start.exists_status hcommand hexit
  rw [← hsame] at hsettings
  -- the search of the status is the one that resolving makes: same disk, same settings, same root
  have htells : status.Tells (start'.worldOf world) settings.config
      (start'.files.absolute workspace) (start'.root settings workspace repoRoot) := by
    rw [Start.worldOf, Start.root, hfiles]
    exact tells_of_overlayStatus hstatus
  have hcalls : (run world moment' registered' arguments').calls = _ :=
    (Attempts.intro hstart' hcommand' hsettings).calls_run
  obtain ⟨folders, hfolders, hasked⟩ := exists_queried (start'.worldOf world) settings.config
    (start'.files.absolute workspace) (start'.root settings workspace repoRoot) wantsOverlay
  rw [Start.resolving, ← Start.root, hasked] at hcalls
  refine ⟨status, settings, ?_, hsettings, ?_, ?_⟩
  · rw [hstdout, if_pos rfl, decode_status]
  · rintro hprimary ⟨hpresent, henabled, hwanted⟩
    obtain ⟨folder, hfolder, hqueried⟩ := htells.queried hprimary hpresent henabled hwanted
    refine ⟨folder, hfolder, ?_, fun result hresult => ?_⟩
    · rw [hcalls, hfolders.eq_pair_iff.mpr hqueried]
      rfl
    · exact (overlayRoot_eq_some hresult).mpr hqueried
  · intro hunused
    have hnot : ∀ folder, ¬ OverlayQueried (start'.worldOf world) settings.config
        (start'.files.absolute workspace) (start'.root settings workspace repoRoot) wantsOverlay
        folder := by
      intro folder hqueried
      obtain ⟨hfolder, hpresent, henabled, hwanted⟩ := htells.of_queried hqueried
      rcases hunused with hnot | hnone
      · exact hnot ⟨hpresent, henabled, hwanted⟩
      · rw [hnone] at hfolder
        cases hfolder
    refine ⟨?_, fun result hresult => ?_⟩
    · rw [hcalls]
      cases hfolders with
      | nothing => exact Or.inl rfl
      | alone => exact Or.inr rfl
      | overlaid hqueried => exact absurd hqueried (hnot _)
    · cases hroot : result.overlayRoot with
      | none => rfl
      | some folder => exact absurd ((overlayRoot_eq_some hresult).mp hroot) (hnot folder)

namespace Overlaid

def statusArguments : List String := ["overlay", "--json", "/"]

def statusStart : Start where
  invocation := ⟨{}, none, .overlay, ["--json", "/"]⟩
  logging := plainLogging
  files := world.files
  command := .overlay Sample.workspace none true

theorem statusStart_of_arguments : Start.Of world statusArguments statusStart where
  invoked := by
    have hread : readGlobal statusArguments = .ok ({}, statusArguments) := rfl
    rw [readInvocation_of_no_info hread rfl]
    rfl
  logged := setup_start_plain world.files
  read := by
    show readFolders world.files { json := true } ["/"] >>= _ = _
    rw [readFolders_root world.files rfl]
    rfl

def status : OverlayStatus := ⟨Sample.workspace, Sample.workspace, some folder, true, true⟩

theorem statusSettings_eq :
    (statusStart.settings world epoch).outcome = .ok ⟨{}, none, none⟩ := by
  rw [← Start.settings_eq_of_globals statusStart_of_arguments start_of_arguments rfl rfl
    (fun _ => rfl) (Or.inl rfl)]
  exact settings_eq

theorem outcome_locating :
    (statusStart.locating world ⟨{}, none, none⟩ Sample.workspace none).outcome = .ok status := by
  rw [Start.locating, Start.root, show statusStart.files = world.files from rfl,
    absolute_workspace]
  exact outcome_overlayStatus_of_found overlayFound

theorem result_status : ∃ result, run world epoch none statusArguments = result ∧
    result.exitCode = 0 ∧ result.stdout = line status.toJson.toBlock := by
  refine ⟨_, run_of_start statusStart_of_arguments, ?_⟩
  have houtcome : (statusStart.carryOut world epoch none).2.outcome =
      .ok { stdout := line status.toJson.toBlock } := by
    rw [Start.outcome_carryOut_overlay rfl statusSettings_eq, outcome_locating]
    rfl
  rw [Start.result, Result.ofRun_of_ok houtcome]
  exact ⟨rfl, rfl⟩

end Overlaid

/-- The overlay folder that is shown is the one that is asked. -/
theorem shown_overlay_is_asked :
    (run Overlaid.world epoch none Overlaid.statusArguments).exitCode = 0 ∧
      ∃ (status : OverlayStatus) (folder : Path),
        Json.decode (run Overlaid.world epoch none Overlaid.statusArguments).stdout =
          .ok status.toJson ∧
        status.folder = some folder ∧
        (run Overlaid.world epoch none Overlaid.arguments).calls =
          [treeQuery Overlaid.world {} Sample.workspace, treeQuery Overlaid.world {} folder] := by
  obtain ⟨result, hresult, hexit, hstdout⟩ := Overlaid.result_status
  have hexit : (run Overlaid.world epoch none Overlaid.statusArguments).exitCode = 0 := by
    rw [hresult, hexit]
  obtain ⟨status, settings, hdecode, hsettings, hasked, -⟩ :=
    overlay_status_tells_resolve none none Overlaid.statusStart_of_arguments rfl
      Overlaid.start_of_arguments rfl rfl rfl (Or.inl rfl) hexit
  have hplain : settings = ⟨{}, none, none⟩ :=
    Except.ok.inj (hsettings.symm.trans Overlaid.settings_eq)
  -- the flags of the status are those that are printed
  have hflags : status.isPresent = true ∧ status.isEnabled = true := by
    have hprinted := hdecode
    rw [hresult, hstdout, decode_status, Except.ok.injEq] at hprinted
    simp only [OverlayStatus.toJson, Overlaid.status, Json.object.injEq, List.cons.injEq,
      Prod.mk.injEq, Json.bool.injEq] at hprinted
    exact ⟨hprinted.2.2.2.1.2.symm, hprinted.2.2.2.2.1.2.symm⟩
  subst hplain
  obtain ⟨folder, hfolder, hcalls, -⟩ := hasked
    ⟨_, Overlaid.absolute_workspace.symm ▸ Overlaid.outcome_workspace⟩ ⟨hflags.1, hflags.2, rfl⟩
  exact ⟨hexit, status, folder, hdecode, hfolder, Overlaid.absolute_workspace ▸ hcalls⟩

end ProductionClosure.CommandLine

import ProductionClosure.Proofs.CommandLine.Listing
import ProductionClosure.Proofs.Config.Loading
import ProductionClosure.Proofs.Resolution.Queries

/-!
The processes that a run of the program starts. The command that lists paths either is stopped before
it comes to resolving, and then nothing is started, or it starts what resolving starts: the query in
the workspace, and behind it the query in the overlay that was waited for.
-/

namespace ProductionClosure.CommandLine

/-- What some arguments come to when their run gets as far as resolving a workspace. -/
inductive Attempts (world : World) (moment : Log.Moment) (arguments : List String) :
    Run Resolution → Prop where
  | intro {start : Start} {workspace : Path} {repoRoot : Option Path} {wantsOverlay json : Bool}
      {settings : Settings} (hstart : Start.Of world arguments start)
      (hcommand : start.command = .resolve workspace repoRoot wantsOverlay json)
      (hsettings : (start.settings world moment).outcome = .ok settings) :
      Attempts world moment arguments
        (start.resolving world settings workspace repoRoot wantsOverlay)

/-- Why a run does not get as far as its command: its command line is refused or asks about the
program, its log file cannot be opened, or its settings cannot be loaded. -/
inductive Stopped (world : World) (moment : Log.Moment) (arguments : List String) : Prop where
  | unread {halt : Halt} (h : readInvocation world.files arguments = .error halt)
      (hrefused : AsksNoInfo arguments → halt.IsRefusal)
  | unlogged {invocation : Invocation} {failure : Failure}
      (hinvoked : readInvocation world.files arguments = .ok invocation)
      (h : (Log.Setup.ofEnvironment invocation.verbosity world.environment).start world.files =
        .error failure)
  | halted {invocation : Invocation} {logging : Log.Logging} {files : FileSystem} {halt : Halt}
      (hinvoked : readInvocation world.files arguments = .ok invocation)
      (hlogged : (Log.Setup.ofEnvironment invocation.verbosity world.environment).start
        world.files = .ok (logging, files))
      (h : readCommand files invocation.command invocation.arguments = .error halt)
      (hrefused : AsksNoInfo arguments → halt.IsRefusal)
  | unsettled {start : Start} {failure : Failure} (hstart : Start.Of world arguments start)
      (h : (start.settings world moment).outcome = .error failure)

section

variable {world : World} {moment : Log.Moment} {registered : Option Path}
  {arguments : List String} {start : Start}

theorem Halt.calls_run (halt : Halt) (wording : Wording) (arguments : List String) :
    (halt.run wording arguments).calls = [] := by
  cases halt with
  | usage problem => rfl
  | info info => cases info <;> rfl
  | failed failure => rfl

theorem calls_loadSettings (words : String → String) (files : FileSystem)
    (after : List Event → FileSystem) (named : Option Path) (folder : Path) :
    (loadSettings words files after named folder).calls = [] := by
  rw [loadSettings_eq]
  refine Run.calls_andThen_eq_nil rfl fun path => ?_
  cases path with
  | none => rfl
  | some path =>
    refine Run.calls_andThen_eq_nil Config.calls_load fun config => ?_
    exact Run.calls_andThen_eq_nil rfl fun _ => rfl

theorem Start.calls_settings : (start.settings world moment).calls = [] :=
  calls_loadSettings _ _ _ _ _

/-- A run whose settings cannot be loaded starts nothing, whatever its command. -/
theorem Start.calls_result_of_unsettled {failure : Failure}
    (h : (start.settings world moment).outcome = .error failure) :
    (start.result world moment registered).calls = [] := by
  rw [Start.result, Result.calls_ofRun, Start.carryOut_of_unsettled h]
  exact Start.calls_settings

/-- The command that lists paths starts what resolving starts. -/
theorem Start.calls_carryOut_resolve {workspace : Path} {repoRoot : Option Path}
    {wantsOverlay json : Bool} {settings : Settings}
    (hcommand : start.command = .resolve workspace repoRoot wantsOverlay json)
    (hsettings : (start.settings world moment).outcome = .ok settings) :
    (start.carryOut world moment registered).2.calls =
      (start.resolving world settings workspace repoRoot wantsOverlay).calls := by
  rw [Start.carryOut_of_ok hsettings, hcommand]
  exact (Run.calls_andThen_of_silent Start.calls_settings hsettings _).trans
    (Run.calls_andThen_of_silent_rest _ fun _ => rfl)

/-- A run that gets as far as resolving starts what resolving starts. -/
theorem Attempts.calls_run {resolving : Run Resolution}
    (h : Attempts world moment arguments resolving) :
    (run world moment registered arguments).calls = resolving.calls := by
  obtain ⟨hstart, hcommand, hsettings⟩ := h
  rw [run_of_start hstart, Start.result, Result.calls_ofRun,
    Start.calls_carryOut_resolve hcommand hsettings]

/-- A command line that names no other command is stopped where it does not come to resolving. -/
theorem stopped_of_not_attempts (hlists : ListsPaths world.files arguments)
    (hno : ∀ resolving, ¬ Attempts world moment arguments resolving) :
    Stopped world moment arguments ∧ (run world moment registered arguments).calls = [] := by
  have hends := run_ends world moment registered arguments
  generalize run world moment registered arguments = result at hends ⊢
  cases hends with
  | unread hrefused =>
    refine ⟨.unread hrefused fun hinfo => hinfo.isRefusal_of_readInvocation hrefused, ?_⟩
    rw [Result.calls_ofRun, Halt.calls_run]
  | unlogged hinvoked hfailed => exact ⟨.unlogged hinvoked hfailed, rfl⟩
  | halted hinvoked hrefused hlogged =>
    refine ⟨.halted hinvoked hlogged hrefused fun hinfo => ?_, ?_⟩
    · have harguments := hinfo.of_readInvocation hinvoked
      rw [hlists _ hinvoked] at hrefused
      exact harguments.isRefusal_of_readCommand hrefused
    · rw [Result.calls_ofRun, Halt.calls_run]
  | @started start hstart =>
    cases hsettings : (start.settings world moment).outcome with
    | error failure =>
      exact ⟨.unsettled hstart hsettings, Start.calls_result_of_unsettled hsettings⟩
    | ok settings =>
      have hread := hstart.read
      rw [hlists _ hstart.invoked] at hread
      obtain ⟨workspace, repoRoot, wantsOverlay, json, hcommand⟩ :=
        exists_resolve_of_readCommand hread
      exact absurd (.intro hstart hcommand hsettings) (hno _)

end

/-- Resolving asks nothing, or the workspace, or the workspace and then its overlay, each in its own
folder and for production. It asks nothing exactly where the workspace is no folder, and the overlay
exactly where the workspace resolved, both the caller and the settings want the overlay, and its
folder is there; no query comes twice unless the overlay is the workspace itself. A run of the
command that lists paths starts what resolving starts, or it is stopped before and starts nothing. -/
theorem queries_follow_resolution :
    (∀ world config workspace repoRoot wantsOverlay,
      ∃ folders, Queried world config workspace repoRoot wantsOverlay folders ∧
        (resolve world config workspace repoRoot wantsOverlay).calls =
          folders.map (treeQuery world config) ∧
        (folders = [] ↔ world.files.isDirectoryText workspace.toString = false) ∧
        (∀ folder, folders = [workspace, folder] ↔
          OverlayQueried world config workspace repoRoot wantsOverlay folder) ∧
        ((resolve world config workspace repoRoot wantsOverlay).calls.Nodup ↔
          ∀ folder, OverlayQueried world config workspace repoRoot wantsOverlay folder →
            folder.toString ≠ workspace.toString)) ∧
    (∀ world config folder, (treeQuery world config folder).folder = some folder.toString ∧
      ∃ environment, (treeQuery world config folder).environment = some environment ∧
        environment.lookup "NODE_ENV" = some "production") ∧
    ∀ world moment registered arguments,
      (∀ resolving, Attempts world moment arguments resolving →
        (run world moment registered arguments).calls = resolving.calls) ∧
      (ListsPaths world.files arguments →
        (∀ resolving, ¬ Attempts world moment arguments resolving) →
          Stopped world moment arguments ∧
            (run world moment registered arguments).calls = []) := by
  refine ⟨?_, ?_, ?_⟩
  · intro world config workspace repoRoot wantsOverlay
    obtain ⟨folders, hfolders, hcalls⟩ :=
      exists_queried world config workspace repoRoot wantsOverlay
    refine ⟨folders, hfolders, hcalls, hfolders.eq_nil_iff, fun _ => hfolders.eq_pair_iff, ?_⟩
    rw [hcalls]
    exact hfolders.nodup_iff
  · intro world config folder
    refine ⟨rfl, _, rfl, ?_⟩
    rw [lookup_over_production, if_pos rfl]
  · intro world moment registered arguments
    exact ⟨fun _ h => h.calls_run, stopped_of_not_attempts⟩

namespace Overlaid

def world : World where
  files := ⟨[([".build"], .directory), ([".build", "distro"], .directory),
    ([".build", "distro", "npm"], .directory)], "/"⟩
  tools := { listings := [("/", Sample.listing Sample.workspaceReport)] }
  environment := []

def folder : Path := ⟨.root, [".build", "distro", "npm"]⟩

def arguments : List String := ["resolve", "/"]

def start : Start where
  invocation := ⟨{}, none, .resolve, ["/"]⟩
  logging := plainLogging
  files := world.files
  command := .resolve Sample.workspace none true false

theorem start_of_arguments : Start.Of world arguments start where
  invoked := by
    have hread : readGlobal arguments = .ok ({}, arguments) := rfl
    rw [readInvocation_of_no_info hread rfl]
    rfl
  logged := setup_start_plain world.files
  read := readCommand_resolve_root world.files

theorem settings_eq : (start.settings world epoch).outcome = .ok ⟨{}, none, none⟩ := by
  have hfind : Config.find world.files Sample.workspace = .ok none := by cbv
  have hpath : settingsPath start.files start.invocation.configPath
      (start.command.start start.files) = .ok none := hfind
  rw [Start.settings, loadSettings_eq, hpath]
  rfl

theorem status_folder : world.files.status folder.toString = .ok .directory := by
  have htext : folder.toString = "/.build/distro/npm" := by decide
  have hpieces : Text.splitSlash "/.build/distro/npm" = ["", ".build", "distro", "npm"] := by decide
  have habsolute : (Path.ofString "/.build/distro/npm").isAbsolute = true := by decide
  rw [htext]
  simp [FileSystem.status, FileSystem.locate, String.contains_char_eq, hpieces, habsolute,
    FileSystem.walk, FileSystem.entry?, FileSystem.maxNameOctets, world]
  decide

theorem overlayFound : OverlayFound world.files Sample.workspace Sample.workspace
    ({} : Config).overlayFolder folder :=
  OverlayAt.found ⟨Sample.workspace, Sample.workspace, ⟨.relative, []⟩, rfl, rfl, rfl, rfl⟩
    status_folder

theorem outcome_workspace :
    (resolveWorkspace world {} Sample.workspace).outcome = .ok ⟨Sample.workspace, 1, ["/a"], []⟩ :=
  Sample.outcome_resolveWorkspace (FileSystem.status_root world.files) rfl
    Sample.reports_workspaceReport (by decide)

theorem overlayQueried :
    OverlayQueried world {} Sample.workspace Sample.workspace true folder where
  resolved := ⟨_, outcome_workspace⟩
  wanted := rfl
  enabled := rfl
  found := overlayFound

theorem absolute_workspace : world.files.absolute Sample.workspace = Sample.workspace := by
  decide

theorem attempts : Attempts world epoch arguments
    (resolve world {} Sample.workspace Sample.workspace true) := by
  have hresolving : start.resolving world ⟨{}, none, none⟩ Sample.workspace none true =
      resolve world {} Sample.workspace Sample.workspace true := by
    unfold Start.resolving
    rw [show start.files = world.files from rfl, absolute_workspace]
    rfl
  rw [← hresolving]
  exact .intro start_of_arguments rfl settings_eq

def misspelt : List String := ["resolve", "--no-overlays", "/"]

theorem readInvocation_misspelt :
    readInvocation world.files misspelt = .ok ⟨{}, none, .resolve, ["--no-overlays", "/"]⟩ := by
  have hread : readGlobal misspelt = .ok ({}, misspelt) := rfl
  rw [readInvocation_of_no_info hread rfl]
  rfl

theorem listsPaths_misspelt : ListsPaths world.files misspelt := by
  intro invocation hread
  rw [readInvocation_misspelt] at hread
  cases hread
  rfl

theorem not_attempts_misspelt (resolving : Run Resolution) :
    ¬ Attempts world epoch misspelt resolving := by
  rintro ⟨hstart, -, -⟩
  rename_i start _ _ _ _ _
  have hinvoked := hstart.invoked
  rw [readInvocation_misspelt, Except.ok.injEq] at hinvoked
  have hread := hstart.read
  rw [← hinvoked, readCommand_resolve_eq] at hread
  cases hread

end Overlaid

/-- A workspace with an overlay is asked first and its overlay behind it; a command line that cannot
be understood asks nothing. -/
theorem overlaid_root_asks_twice :
    (Attempts Overlaid.world epoch Overlaid.arguments
        (resolve Overlaid.world {} Sample.workspace Sample.workspace true) ∧
      (run Overlaid.world epoch none Overlaid.arguments).calls =
        [treeQuery Overlaid.world {} Sample.workspace,
          treeQuery Overlaid.world {} Overlaid.folder]) ∧
    (ListsPaths Overlaid.world.files Overlaid.misspelt ∧
      (∀ resolving, ¬ Attempts Overlaid.world epoch Overlaid.misspelt resolving) ∧
      Stopped Overlaid.world epoch Overlaid.misspelt ∧
      (run Overlaid.world epoch none Overlaid.misspelt).calls = []) := by
  obtain ⟨hresolve, -, hrun⟩ := queries_follow_resolution
  obtain ⟨folders, -, hcalls, -, hpair, -⟩ :=
    hresolve Overlaid.world {} Sample.workspace Sample.workspace true
  have hfolders := (hpair Overlaid.folder).mpr Overlaid.overlayQueried
  refine ⟨⟨Overlaid.attempts, ?_⟩, Overlaid.listsPaths_misspelt, Overlaid.not_attempts_misspelt, ?_⟩
  · rw [(hrun _ _ none _).1 _ Overlaid.attempts, hcalls, hfolders]
    rfl
  · exact (hrun _ _ none _).2 Overlaid.listsPaths_misspelt Overlaid.not_attempts_misspelt

/-- An overlay that is the workspace itself has the one query started twice. -/
theorem coinciding_overlay_repeats_query :
    ¬ ∀ (world : World) (config : Config) (workspace repoRoot : Path) (wantsOverlay : Bool),
      (resolve world config workspace repoRoot wantsOverlay).calls.Nodup := by
  intro honce
  have hfound : OverlayFound Sample.world.files Sample.workspace Sample.workspace "."
      Sample.workspace :=
    OverlayAt.found ⟨Sample.workspace, Sample.workspace, ⟨.relative, []⟩, rfl, rfl, rfl, rfl⟩
      Sample.status_workspace
  have hoverlay : OverlayQueried Sample.world { overlayFolder := "." } Sample.workspace
      Sample.workspace true Sample.workspace :=
    ⟨⟨_, Sample.outcome_workspace (by decide)⟩, rfl, rfl, hfound⟩
  obtain ⟨folders, hfolders, hcalls⟩ := exists_queried Sample.world { overlayFolder := "." }
    Sample.workspace Sample.workspace true
  have hnodup := honce Sample.world { overlayFolder := "." } Sample.workspace Sample.workspace true
  rw [hcalls] at hnodup
  exact hfolders.nodup_iff.mp hnodup _ hoverlay rfl

end ProductionClosure.CommandLine

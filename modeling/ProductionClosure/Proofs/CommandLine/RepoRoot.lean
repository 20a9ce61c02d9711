import ProductionClosure.Proofs.CommandLine.Overlay
import ProductionClosure.Proofs.CommandLine.Settings

/-!
The repository root of a command. The root that is registered behind a command is one of its settings,
so a command never gets to see what an earlier one has registered: its root comes from its own
arguments, its own settings file and its own workspace, in this order, and a sequence of commands in
one process comes to what each of them comes to alone.
-/

namespace ProductionClosure.CommandLine

/-! ### The settings that are loaded -/

/-- What the settings of a start are made of: a file that was loaded, with its folder, or nothing. -/
inductive Start.Loads (start : Start) (world : World) (moment : Log.Moment) : Settings → Prop where
  | defaults (hpath : settingsPath start.files start.invocation.configPath
      (start.command.start start.files) = .ok none) : start.Loads world moment ⟨{}, none, none⟩
  | file {path folder : Path} {config : Config} (hpath : start.SettingsAt path)
      (hload : (start.loading world moment path).outcome = .ok config)
      (hfolder : start.files.resolve path.parent = .ok folder) :
      start.Loads world moment ⟨config, some path, some folder⟩

section

variable {world : World} {moment : Log.Moment} {start : Start} {settings : Settings}

theorem Start.loads_of_settings (h : (start.settings world moment).outcome = .ok settings) :
    start.Loads world moment settings := by
  rw [Start.settings, loadSettings_eq] at h
  obtain ⟨found, hpath, h⟩ := Run.outcome_andThen_eq_ok.mp h
  cases found with
  | none =>
    cases h
    exact .defaults hpath
  | some path =>
    obtain ⟨config, hload, h⟩ := Run.outcome_andThen_eq_ok.mp h
    obtain ⟨folder, hfolder, h⟩ := Run.outcome_andThen_eq_ok.mp h
    cases h
    exact .file hpath hload (Outcome.mapError_eq_ok.mp hfolder)

end

/-! ### The root that counts -/

/-- The repository root of a command about a workspace, by precedence: the root given with the
command, made absolute; else the root in its settings; else the folder of its settings file, as a real
path; else the workspace itself, made absolute. -/
inductive Start.RootOf (start : Start) (config : Config) (workspace : Path) :
    Option Path → Path → Prop where
  | given (root : Path) : start.RootOf config workspace (some root) (start.files.absolute root)
  | configured {text : String} (h : config.repoRoot = some text) (hne : text ≠ "") :
      start.RootOf config workspace none (Path.ofString text)
  | besideFile {path folder : Path} (h : ∀ text, config.repoRoot = some text → text = "")
      (hpath : start.SettingsAt path) (hfolder : start.files.resolve path.parent = .ok folder) :
      start.RootOf config workspace none folder
  | workspace (h : ∀ text, config.repoRoot = some text → text = "")
      (hpath : settingsPath start.files start.invocation.configPath
        (start.command.start start.files) = .ok none) :
      start.RootOf config workspace none (start.files.absolute workspace)

section

variable {world : World} {moment : Log.Moment} {registered : Option Path} {start : Start}
  {settings : Settings} {workspace root : Path} {repoRoot : Option Path}

theorem Start.root_of_none (start : Start) (settings : Settings) (workspace : Path) :
    start.root settings workspace none =
      (settings.config.givenRoot?.or settings.folder).getD (start.files.absolute workspace) := by
  simp [Start.root, effectiveRepoRoot]

/-- The root that counts is that of the first source that has one. -/
theorem Start.rootOf_iff (hsettings : (start.settings world moment).outcome = .ok settings) :
    start.RootOf settings.config workspace repoRoot root ↔
      start.root settings workspace repoRoot = root := by
  have hloads := Start.loads_of_settings hsettings
  constructor
  · intro h
    cases h with
    | given => rfl
    | configured h hne =>
      rw [Start.root_of_none, Config.givenRoot?_eq_some.mpr ⟨_, h, hne, rfl⟩]
      rfl
    | besideFile h hpath hfolder =>
      cases hloads with
      | defaults hother =>
        rw [Start.SettingsAt, hother] at hpath
        cases hpath
      | file hother _ hreal =>
        rw [Start.SettingsAt, hother] at hpath
        cases hpath
        rw [hfolder] at hreal
        cases hreal
        rw [Start.root_of_none, Config.givenRoot?_eq_none.mpr h]
        rfl
    | workspace h hpath =>
      cases hloads with
      | file hother =>
        rw [Start.SettingsAt, hpath] at hother
        cases hother
      | defaults => rw [Start.root_of_none, Config.givenRoot?_eq_none.mpr h]; rfl
  · rintro rfl
    cases repoRoot with
    | some path => exact .given path
    | none =>
      rw [Start.root_of_none]
      cases hgiven : settings.config.givenRoot? with
      | some path =>
        obtain ⟨text, htext, hne, rfl⟩ := Config.givenRoot?_eq_some.mp hgiven
        exact .configured htext hne
      | none =>
        have hempty := Config.givenRoot?_eq_none.mp hgiven
        cases hloads with
        | defaults hpath => exact .workspace hempty hpath
        | file hpath _ hfolder => exact .besideFile hempty hpath hfolder

/-! ### A command with its root -/

/-- A command about a workspace, with the repository root that is given with it. -/
inductive Command.Concerns : Command → Path → Option Path → Prop where
  | resolve (workspace : Path) (repoRoot : Option Path) (wantsOverlay json : Bool) :
      Concerns (.resolve workspace repoRoot wantsOverlay json) workspace repoRoot
  | overlay (workspace : Path) (repoRoot : Option Path) (json : Bool) :
      Concerns (.overlay workspace repoRoot json) workspace repoRoot

/-- Carries out a command with a known repository root; what is given with the command, and what is
registered, are left out of account. -/
def runAt (world : World) (quiet : Bool) (settings : Settings) (root : Path) :
    Command → Run Output
  | .resolve workspace _ wantsOverlay json =>
    (resolve world settings.config (world.files.absolute workspace) root wantsOverlay).andThen
      fun resolution => .done (showResolution quiet json resolution)
  | .overlay workspace _ json =>
    (overlayStatus world settings.config (world.files.absolute workspace) root).andThen
      fun status =>
        .done { stdout := if json then line status.toJson.toBlock else lines status.texts }
  | .checkConfig json => runCheckConfig world settings json

/-- What a run leaves behind whose command is carried out with a known repository root. -/
def Start.resultAt (start : Start) (world : World) (moment : Log.Moment) (settings : Settings)
    (root : Path) : Result :=
  let run := (start.settings world moment).andThen fun _ =>
    runAt (start.worldOf world) start.invocation.verbosity.quiet settings root start.command
  Result.ofRun settings.folder (start.disk world moment run.events) (start.console world moment) run

/-- Of all that may be given and registered, a command gets to see the root that counts. -/
theorem Start.run_eq_runAt (hcommand : start.command.Concerns workspace repoRoot) (quiet : Bool)
    (settings : Settings) :
    start.command.run (start.worldOf world) quiet settings =
      runAt (start.worldOf world) quiet settings (start.root settings workspace repoRoot)
        start.command := by
  generalize start.command = command at hcommand ⊢
  cases hcommand <;> rfl

theorem Start.result_eq_resultAt (hcommand : start.command.Concerns workspace repoRoot)
    (hsettings : (start.settings world moment).outcome = .ok settings) :
    start.result world moment registered =
      start.resultAt world moment settings (start.root settings workspace repoRoot) := by
  rw [Start.result, Start.carryOut_of_ok hsettings, Start.resultAt]
  simp only [Run.andThen, hsettings, Start.run_eq_runAt hcommand]

end

/-! ### Commands in one process -/

def Result.withoutRoot (result : Result) : Result := { result with registered := none }

/-- Runs of the program in one process: each finds the root that the one before it has registered,
and the disk as that one has left it. -/
def runAll (world : World) (registered : Option Path) :
    List (Log.Moment × List String) → List Result
  | [] => []
  | (moment, arguments) :: rest =>
    let result := run world moment registered arguments
    result :: runAll { world with files := result.files } result.registered rest

section

variable {world : World} {moment : Log.Moment} {registered : Option Path}
  {arguments : List String} {start : Start}

theorem Result.withoutRoot_ofRun (registered : Option Path) (files : FileSystem)
    (log : List Event → String) (run : Run Output) :
    (Result.ofRun registered files log run).withoutRoot = Result.ofRun none files log run := by
  cases h : run.outcome with
  | ok output => rw [Result.ofRun_of_ok h, Result.ofRun_of_ok h]; rfl
  | error failure => rw [Result.ofRun_of_error h, Result.ofRun_of_error h]; rfl

theorem Start.carryOut_unregistered (registered other : Option Path) :
    (start.carryOut world moment registered).2 = (start.carryOut world moment other).2 := by
  cases hsettings : (start.settings world moment).outcome with
  | ok settings => rw [Start.carryOut_of_ok hsettings, Start.carryOut_of_ok hsettings]
  | error failure =>
    rw [Start.carryOut_of_unsettled hsettings, Start.carryOut_of_unsettled hsettings]

theorem Start.result_unregistered (registered other : Option Path) :
    (start.result world moment registered).withoutRoot =
      (start.result world moment other).withoutRoot := by
  rw [Start.result, Start.result, Result.withoutRoot_ofRun, Result.withoutRoot_ofRun,
    Start.carryOut_unregistered registered other]

/-- What an earlier command has registered makes no difference to a run. -/
theorem run_unregistered (world : World) (moment : Log.Moment) (registered other : Option Path)
    (arguments : List String) :
    (run world moment registered arguments).withoutRoot =
      (run world moment other arguments).withoutRoot := by
  cases hinvoked : readInvocation world.files arguments with
  | error halt => simp only [run, hinvoked, Result.withoutRoot_ofRun]
  | ok invocation =>
    cases hlogged : (Log.Setup.ofEnvironment invocation.verbosity world.environment).start
        world.files with
    | error failure => simp only [run, hinvoked, hlogged, Result.withoutRoot]
    | ok opened =>
      obtain ⟨logging, files⟩ := opened
      cases hread : readCommand files invocation.command invocation.arguments with
      | error halt => simp only [run, hinvoked, hlogged, hread, Result.withoutRoot_ofRun]
      | ok command =>
        have hstart : Start.Of world arguments ⟨invocation, logging, files, command⟩ :=
          ⟨hinvoked, hlogged, hread⟩
        rw [run_of_start hstart, run_of_start hstart, Start.result_unregistered registered other]

/-- Without a log file a run leaves the disk as it is. -/
theorem files_run_of_no_log_file (hfile : world.environment.value? "PRODEPS_LOG_FILE" = none) :
    (run world moment registered arguments).files = world.files := by
  have hends := run_ends world moment registered arguments
  generalize run world moment registered arguments = result at hends ⊢
  cases hends with
  | unread => exact Result.files_ofRun
  | unlogged => rfl
  | halted _ _ hlogged hafter =>
    rw [setup_start_of_no_file hfile, Except.ok.injEq, Prod.mk.injEq] at hlogged
    obtain ⟨records, rfl⟩ := hafter
    rw [Result.files_ofRun, ← hlogged.1, ← hlogged.2]
    rfl
  | started hstart => rw [Start.result, Result.files_ofRun, hstart.disk_of_no_log_file hfile]

/-- The root that is registered behind a run is the folder of its settings file, if it loads one. -/
theorem registered_run_of_start (hstart : Start.Of world arguments start) :
    (run world moment registered arguments).registered =
      match (start.settings world moment).outcome with
      | .ok settings => settings.folder
      | .error _ => registered := by
  rw [run_of_start hstart, Start.result, Result.registered_ofRun]
  cases hsettings : (start.settings world moment).outcome with
  | ok settings => rw [Start.carryOut_of_ok hsettings]
  | error failure => rw [Start.carryOut_of_unsettled hsettings]

/-- A run whose settings are not loaded leaves the registered root as it was. -/
theorem registered_run_of_unsettled
    (h : ∀ start settings, Start.Of world arguments start →
      (start.settings world moment).outcome ≠ .ok settings) :
    (run world moment registered arguments).registered = registered := by
  have hends := run_ends world moment registered arguments
  generalize run world moment registered arguments = result at hends ⊢
  cases hends with
  | unread | halted => exact Result.registered_ofRun
  | unlogged => rfl
  | @started start hstart =>
    rw [← run_of_start hstart, registered_run_of_start hstart]
    cases hsettings : (start.settings world moment).outcome with
    | ok settings => exact absurd hsettings (h start settings hstart)
    | error failure => rfl

/-- Each run in a process comes to what it comes to in a process of its own. -/
theorem runAll_eq_map (hfile : world.environment.value? "PRODEPS_LOG_FILE" = none)
    (registered : Option Path) (commands : List (Log.Moment × List String)) :
    (runAll world registered commands).map Result.withoutRoot =
      commands.map fun command => (run world command.1 none command.2).withoutRoot := by
  -- on the commands: each leaves the disk to the next one as it found it, and a root that the next
  -- one does not look at
  induction commands generalizing registered with
  | nil => rfl
  | cons command rest ih =>
    obtain ⟨moment, arguments⟩ := command
    rw [runAll, List.map_cons, List.map_cons, files_run_of_no_log_file hfile]
    exact congrArg₂ List.cons (run_unregistered world moment registered none arguments) (ih _)

end

/-- A command about a workspace that loads its settings has one repository root, by precedence, and
what it leaves behind is made with this root, whatever was registered before. So runs in one process
come to what each of them comes to alone, as long as no log file is written; and a run whose settings
are not loaded leaves the registered root as it was. -/
theorem repo_root_has_precedence :
    (∀ world moment arguments (start : Start) workspace repoRoot settings,
      Start.Of world arguments start → start.command.Concerns workspace repoRoot →
      (start.settings world moment).outcome = .ok settings →
        ∃ root, (∀ other, start.RootOf settings.config workspace repoRoot other ↔ other = root) ∧
          ∀ registered, run world moment registered arguments =
            start.resultAt world moment settings root) ∧
    (∀ world : World, world.environment.value? "PRODEPS_LOG_FILE" = none →
      ∀ registered commands, (runAll world registered commands).map Result.withoutRoot =
        commands.map fun command => (run world command.1 none command.2).withoutRoot) ∧
    ∀ world moment registered arguments,
      (∀ start settings, Start.Of world arguments start →
        (start.settings world moment).outcome ≠ .ok settings) →
      (run world moment registered arguments).registered = registered := by
  refine ⟨?_, ?_, ?_⟩
  · intro world moment arguments start workspace repoRoot settings hstart hcommand hsettings
    refine ⟨start.root settings workspace repoRoot, fun other => ?_, fun registered => ?_⟩
    · rw [Start.rootOf_iff hsettings, eq_comm]
    · rw [run_of_start hstart, Start.result_eq_resultAt hcommand hsettings]
  · exact fun world hfile => runAll_eq_map hfile
  · exact fun world moment registered arguments => registered_run_of_unsettled

namespace Rooted

def world : World where
  files := ⟨[(["d"], .directory), (["d", "c"], .file [] true)], "/"⟩
  tools := { listings := [("/", Sample.listing Sample.workspaceReport)] }
  environment := []

def folder : Path := ⟨.root, ["d"]⟩

def path : Path := ⟨.root, ["d", "c"]⟩

def arguments : List String := ["--config", "/d/c", "resolve", "/"]

def start : Start where
  invocation := ⟨{}, some path, .resolve, ["/"]⟩
  logging := plainLogging
  files := world.files
  command := .resolve Sample.workspace none true false

theorem start_of_arguments : Start.Of world arguments start where
  invoked := by
    have hread : readGlobal arguments = .ok ({ configPath := some "/d/c" }, ["resolve", "/"]) := rfl
    have hconfig : configArgument world.files "/d/c" = .ok (some path) := by cbv
    rw [readInvocation_of_no_info hread rfl]
    show configArgument world.files "/d/c" >>= _ = _
    rw [hconfig]
    rfl
  logged := setup_start_plain world.files
  read := readCommand_resolve_root world.files

theorem resolve_path : world.files.resolve path.parent = .ok folder := by cbv

theorem settings_eq : (start.settings world epoch).outcome = .ok ⟨{}, some path, some folder⟩ := by
  have hpath : settingsPath start.files start.invocation.configPath
      (start.command.start start.files) = .ok (some path) := rfl
  have hdisk : start.disk world epoch [.configLoading path] = world.files :=
    start_of_arguments.disk_of_no_log_file rfl _
  have hload : (Config.load world.wording.malformedYaml
      (start.disk world epoch [.configLoading path]) path).outcome = .ok {} := by
    rw [hdisk]
    cbv
  have hfolder : Config.folderOf start.files path = .ok folder := by cbv
  rw [Start.settings, loadSettings_eq, hpath, Run.outcome_ok_andThen,
    Run.outcome_andThen_of_ok hload, hfolder]
  rfl

theorem rootOf : start.RootOf {} Sample.workspace none folder :=
  .besideFile nofun rfl resolve_path

end Rooted

/-- The folder of a settings file is the root of its own command, and is forgotten by the next
one. -/
theorem registered_root_is_not_used :
    (∀ registered, run Rooted.world epoch registered Rooted.arguments =
      Rooted.start.resultAt Rooted.world epoch ⟨{}, some Rooted.path, some Rooted.folder⟩
        Rooted.folder) ∧
    (runAll Rooted.world none [(epoch, Rooted.arguments), (epoch, ["resolve", "/"])]).map
        Result.withoutRoot =
      [(run Rooted.world epoch none Rooted.arguments).withoutRoot,
        (run Rooted.world epoch none ["resolve", "/"]).withoutRoot] ∧
    (run Undecodable.world epoch (some Rooted.folder) (Undecodable.arguments "/c")).registered =
      some Rooted.folder := by
  obtain ⟨hroot, hall, hkept⟩ := repo_root_has_precedence
  refine ⟨?_, ?_, ?_⟩
  · obtain ⟨root, hunique, hrun⟩ := hroot Rooted.world epoch Rooted.arguments Rooted.start
      Sample.workspace none _ Rooted.start_of_arguments (.resolve _ _ _ _) Rooted.settings_eq
    obtain rfl := (hunique Rooted.folder).mp Rooted.rootOf
    exact hrun
  · exact hall Rooted.world rfl none _
  · refine hkept _ _ _ _ fun start settings hstart hsettings => ?_
    obtain rfl := Undecodable.start_path.unique hstart
    have hpath : (Undecodable.start Undecodable.path).SettingsAt Undecodable.path := rfl
    have hload : ((Undecodable.start Undecodable.path).loading Undecodable.world epoch
        Undecodable.path).outcome = .error _ := Undecodable.escapes_path.outcome_load _
    rw [Start.settings_of_error hpath hload] at hsettings
    cases hsettings

end ProductionClosure.CommandLine

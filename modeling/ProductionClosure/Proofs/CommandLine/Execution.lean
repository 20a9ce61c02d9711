import ProductionClosure.CommandLine.Execution
import ProductionClosure.Proofs.Run

/-!
How a run of the program comes about. It is stopped while its command line is read, or where its log
file is opened, or it gets a start: then its settings are loaded and its command is carried out. What
a run leaves behind is read off these four cases.
-/

namespace ProductionClosure.CommandLine

/-- A command line that was read to its end, with logging set up for it. -/
structure Start where
  invocation : Invocation
  logging : Log.Logging
  files : FileSystem
  command : Command

namespace Start

structure Of (world : World) (arguments : List String) (start : Start) : Prop where
  invoked : readInvocation world.files arguments = .ok start.invocation
  logged : (Log.Setup.ofEnvironment start.invocation.verbosity world.environment).start
    world.files = .ok (start.logging, start.files)
  read : readCommand start.files start.invocation.command start.invocation.arguments =
    .ok start.command

/-- The world that a command is carried out in: opening the log file may have made it. -/
def worldOf (start : Start) (world : World) : World := { world with files := start.files }

/-- What is logged for some events, behind the word on logging itself. -/
def records (start : Start) (world : World) (events : List Event) : List Log.Record :=
  (Event.loggingConfigured (start.invocation.verbosity.levelName world.environment) :: events).map
    Event.record

def disk (start : Start) (world : World) (moment : Log.Moment) (events : List Event) : FileSystem :=
  start.logging.write moment (start.records world events) start.files

def console (start : Start) (world : World) (moment : Log.Moment) (events : List Event) : String :=
  start.logging.consoleText moment (start.records world events)

def settings (start : Start) (world : World) (moment : Log.Moment) : Run Settings :=
  loadSettings world.wording.malformedYaml start.files (start.disk world moment)
    start.invocation.configPath (start.command.start start.files)

def root (start : Start) (settings : Settings) (workspace : Path) (repoRoot : Option Path) : Path :=
  effectiveRepoRoot settings.folder (start.files.absolute workspace)
    (repoRoot.map start.files.absolute) (some settings.config)

def carryOut (start : Start) (world : World) (moment : Log.Moment) (registered : Option Path) :
    Option Path × Run Output :=
  start.command.runWith (start.worldOf world) (start.disk world moment) registered start.invocation

def result (start : Start) (world : World) (moment : Log.Moment) (registered : Option Path) :
    Result :=
  let carried := start.carryOut world moment registered
  Result.ofRun carried.1 (start.disk world moment carried.2.events) (start.console world moment)
    carried.2

end Start

variable {world : World} {moment : Log.Moment} {registered : Option Path}
  {arguments : List String}

/-- How a run comes about, with what it leaves behind. -/
inductive Ends (world : World) (moment : Log.Moment) (registered : Option Path)
    (arguments : List String) : Result → Prop where
  | unread {halt : Halt} (h : readInvocation world.files arguments = .error halt) :
      Ends world moment registered arguments
        (Result.ofRun registered world.files (fun _ => "") (halt.run world.wording arguments))
  | unlogged {invocation : Invocation} {failure : Failure}
      (hinvoked : readInvocation world.files arguments = .ok invocation)
      (h : (Log.Setup.ofEnvironment invocation.verbosity world.environment).start world.files =
        .error failure) :
      Ends world moment registered arguments
        { exitCode := 1, failure := some failure, registered, files := world.files }
  | halted {invocation : Invocation} {logging : Log.Logging} {files : FileSystem} {halt : Halt}
      {log : List Event → String} {after : FileSystem}
      (hinvoked : readInvocation world.files arguments = .ok invocation)
      (h : readCommand files invocation.command invocation.arguments = .error halt)
      (hlogged : (Log.Setup.ofEnvironment invocation.verbosity world.environment).start
        world.files = .ok (logging, files))
      (hafter : ∃ records, after = logging.write moment records files) :
      Ends world moment registered arguments
        (Result.ofRun registered after log (halt.run world.wording arguments))
  | started {start : Start} (h : Start.Of world arguments start) :
      Ends world moment registered arguments (start.result world moment registered)

theorem Start.Of.unique {start other : Start} (h : Start.Of world arguments start)
    (hother : Start.Of world arguments other) : start = other := by
  obtain ⟨invocation, logging, files, command⟩ := start
  obtain ⟨invocation', logging', files', command'⟩ := other
  obtain ⟨hinvoked, hlogged, hread⟩ := h
  obtain ⟨hinvoked', hlogged', hread'⟩ := hother
  dsimp only at *
  rw [hinvoked] at hinvoked'
  cases hinvoked'
  rw [hlogged] at hlogged'
  cases hlogged'
  rw [hread] at hread'
  cases hread'
  rfl

theorem run_of_start {start : Start} (h : Start.Of world arguments start) :
    run world moment registered arguments = start.result world moment registered := by
  unfold run
  rw [h.invoked]
  simp only [h.logged, h.read]
  rfl

/-- Everything that a run can come to. -/
theorem run_ends (world : World) (moment : Log.Moment) (registered : Option Path)
    (arguments : List String) :
    Ends world moment registered arguments (run world moment registered arguments) := by
  cases hinvoked : readInvocation world.files arguments with
  | error halt =>
    simp only [run, hinvoked]
    exact .unread hinvoked
  | ok invocation =>
    cases hlogged : (Log.Setup.ofEnvironment invocation.verbosity world.environment).start
        world.files with
    | error failure =>
      simp only [run, hinvoked, hlogged]
      exact .unlogged hinvoked hlogged
    | ok opened =>
      obtain ⟨logging, files⟩ := opened
      cases hread : readCommand files invocation.command invocation.arguments with
      | error halt =>
        simp only [run, hinvoked, hlogged, hread]
        exact .halted hinvoked hread hlogged ⟨_, rfl⟩
      | ok command =>
        have hstart : Start.Of world arguments ⟨invocation, logging, files, command⟩ :=
          ⟨hinvoked, hlogged, hread⟩
        rw [run_of_start hstart]
        exact .started hstart

/-! ### What is left behind -/

theorem Result.ofRun_of_ok {files : FileSystem} {log : List Event → String} {run : Run Output}
    {output : Output} (h : run.outcome = .ok output) :
    Result.ofRun registered files log run =
      { exitCode := output.exitCode, stdout := output.stdout,
        stderr := log run.events ++ output.messages, registered, files, calls := run.calls } := by
  simp only [Result.ofRun, h]

theorem Result.ofRun_of_error {files : FileSystem} {log : List Event → String} {run : Run Output}
    {failure : Failure} (h : run.outcome = .error failure) :
    Result.ofRun registered files log run =
      { exitCode := 1, stderr := log run.events, failure := some failure, registered, files,
        calls := run.calls } := by
  simp only [Result.ofRun, h]

section

variable {files : FileSystem} {log : List Event → String} {run : Run Output}

@[simp] theorem Result.registered_ofRun :
    (Result.ofRun registered files log run).registered = registered := by
  unfold Result.ofRun
  split <;> rfl

@[simp] theorem Result.files_ofRun : (Result.ofRun registered files log run).files = files := by
  unfold Result.ofRun
  split <;> rfl

@[simp] theorem Result.calls_ofRun :
    (Result.ofRun registered files log run).calls = run.calls := by
  unfold Result.ofRun
  split <;> rfl

end

/-! ### The settings -/

/-- The settings file of a command: the one named, or else the nearest one. -/
def settingsPath (files : FileSystem) (named : Option Path) (folder : Path) :
    Except Failure (Option Path) :=
  match named with
  | some path => .ok (some path)
  | none => Config.find files folder

theorem loadSettings_eq (words : String → String) (files : FileSystem)
    (after : List Event → FileSystem) (named : Option Path) (folder : Path) :
    loadSettings words files after named folder =
      (Run.ofExcept (settingsPath files named folder)).andThen fun
        | none => Run.done ⟨{}, none, none⟩
        | some path => (Config.load words (after [.configLoading path]) path).andThen fun config =>
            (Run.ofExcept (Config.folderOf files path)).andThen fun folder =>
              Run.done ⟨config, some path, some folder⟩ := by
  cases named <;> rfl

/-- Settings that cannot be loaded end the run there, with what was reported on the way. -/
theorem loadSettings_of_error {words : String → String} {files : FileSystem}
    {after : List Event → FileSystem} {named : Option Path} {folder path : Path} {failure : Failure}
    (hpath : settingsPath files named folder = .ok (some path))
    (h : (Config.load words (after [.configLoading path]) path).outcome = .error failure) :
    loadSettings words files after named folder =
      { Config.load words (after [.configLoading path]) path with outcome := .error failure } := by
  simp only [loadSettings_eq, hpath, Run.andThen, Run.ofExcept, h, List.nil_append]

namespace Start

variable {start : Start}

/-- How a command ends whose settings cannot be loaded: it says what is wrong with its settings file,
and passes every other failure on. -/
def unsettled : Failure → Except Failure Output
  | .config fault => .ok (complaint [s!"❌ {fault.message}"])
  | failure => .error failure

theorem unsettled_of_ne {failure : Failure} (h : ∀ fault, failure ≠ .config fault) :
    unsettled failure = .error failure := by
  cases failure with
  | config fault => exact absurd rfl (h fault)
  | _ => rfl

theorem carryOut_of_unsettled {failure : Failure}
    (h : (start.settings world moment).outcome = .error failure) :
    start.carryOut world moment registered =
      (registered, { start.settings world moment with outcome := unsettled failure }) := by
  unfold settings at h
  cases failure <;> simp only [carryOut, Command.runWith, worldOf, settings, h, unsettled]

theorem carryOut_of_ok {settings : Settings}
    (h : (start.settings world moment).outcome = .ok settings) :
    start.carryOut world moment registered =
      (settings.folder, (start.settings world moment).andThen fun settings =>
        start.command.run (start.worldOf world) start.invocation.verbosity.quiet settings) := by
  unfold Start.settings at h
  simp only [carryOut, Command.runWith, worldOf, Start.settings, h]

end Start

/-! ### Logging without a file -/

/-- Without a log file nothing but the console is set up, and the disk stays as it is. -/
theorem setup_start_of_no_file {verbosity : Log.Verbosity} {environment : Environment}
    (h : environment.value? "PRODEPS_LOG_FILE" = none) (files : FileSystem) :
    (Log.Setup.ofEnvironment verbosity environment).start files =
      .ok ({ console := .console (Log.Setup.ofEnvironment verbosity environment).consoleLevel },
        files) := by
  have hname : (Log.Setup.ofEnvironment verbosity environment).fileName? = none := by
    rw [Log.Setup.fileName?, Log.Setup.ofEnvironment, h]
    rfl
  simp only [Log.Setup.start, hname]

namespace Start

variable {start : Start}

/-- What a start needs besides its command line: the logging, and the disk with its log file. -/
theorem Of.logged_unique {arguments' : List String} {start' : Start}
    (h : Of world arguments start) (h' : Of world arguments' start')
    (hverbosity : start'.invocation.verbosity = start.invocation.verbosity) :
    start'.logging = start.logging ∧ start'.files = start.files := by
  have hlogged := h'.logged
  rw [hverbosity, h.logged, Except.ok.injEq, Prod.mk.injEq] at hlogged
  exact ⟨hlogged.1.symm, hlogged.2.symm⟩

theorem Of.of_no_log_file (h : Of world arguments start)
    (hfile : world.environment.value? "PRODEPS_LOG_FILE" = none) :
    start.logging.file = none ∧ start.files = world.files := by
  have hlogged := h.logged
  rw [setup_start_of_no_file hfile, Except.ok.injEq, Prod.mk.injEq] at hlogged
  rw [← hlogged.1]
  exact ⟨rfl, hlogged.2.symm⟩

/-- Without a log file the disk stays as it is, whatever is logged. -/
theorem Of.disk_of_no_log_file (h : Of world arguments start)
    (hfile : world.environment.value? "PRODEPS_LOG_FILE" = none) (events : List Event) :
    start.disk world moment events = world.files := by
  obtain ⟨hnone, hfiles⟩ := h.of_no_log_file hfile
  rw [disk, Log.Logging.write, hnone, hfiles]

/-- Without a log file the settings do not depend on what is logged. -/
theorem Of.settings_of_no_log_file (h : Of world arguments start)
    (hfile : world.environment.value? "PRODEPS_LOG_FILE" = none) :
    start.settings world moment =
      loadSettings world.wording.malformedYaml world.files (fun _ => world.files)
        start.invocation.configPath (start.command.start world.files) := by
  have hdisk : start.disk world moment = fun _ => world.files :=
    funext fun events => h.disk_of_no_log_file hfile events
  rw [settings, hdisk, (h.of_no_log_file hfile).2]

end Start

/-! ### Logging where the environment says nothing -/

/-- The console alone, from warnings on. -/
def plainLogging : Log.Logging := { console := Log.Handler.console Log.Level.warning }

theorem setup_start_plain (files : FileSystem) :
    (Log.Setup.ofEnvironment {} []).start files = .ok (plainLogging, files) := by
  have hlevel : Log.Level.ofSetting "WARNING" = Log.Level.warning := by rfl
  show Except.ok (({ console := .console (Log.Level.ofSetting "WARNING") } : Log.Logging), files) = _
  rw [hlevel]
  rfl

def epoch : Log.Moment := ⟨"1970-01-01", "00:00:00"⟩

end ProductionClosure.CommandLine

import ProductionClosure.CommandLine.Commands

/-!
A whole run of the program. The command line is read up to the name of the command, logging is set
up, the arguments of the command are read, the settings are loaded, and the command is carried out
with the folder of its settings file registered as the repository root. A run that is stopped on the
way leaves the registered root as it was.
-/

namespace ProductionClosure.CommandLine

def programVersion : String := "0.1.0"

/-- What a run leaves behind. An uncaught failure ends it with exit code 1. -/
structure Result where
  exitCode : Nat
  stdout : String := ""
  stderr : String := ""
  failure : Option Failure := none
  registered : Option Path
  files : FileSystem
  calls : List Call := []

def Halt.run (wording : Wording) (arguments : List String) : Halt → Run Output
  | .usage problem => pure { exitCode := 2, messages := line (wording.usage arguments problem) }
  | .info .version => pure { stdout := line ("prodeps, version " ++ programVersion) }
  | .info (.help command) => pure { stdout := line (wording.help command) }
  | .failed failure => Run.fail failure

def Command.start (files : FileSystem) : Command → Path
  | .resolve workspace _ _ _ => files.absolute workspace
  | .overlay workspace _ _ => files.absolute workspace
  | .checkConfig _ => Path.ofString files.workingFolder

def Command.run (world : World) (quiet : Bool) (settings : Settings) : Command → Run Output
  | .resolve workspace repoRoot wantsOverlay json =>
    runResolve world settings.folder settings.config (world.files.absolute workspace)
      (repoRoot.map world.files.absolute) wantsOverlay json quiet
  | .overlay workspace repoRoot json =>
    runOverlay world settings.folder settings.config (world.files.absolute workspace)
      (repoRoot.map world.files.absolute) json
  | .checkConfig json => runCheckConfig world settings json

/-- Carries out a command with its settings, and tells which root is registered behind it. -/
def Command.runWith (world : World) (logged : List Event → FileSystem) (registered : Option Path)
    (invocation : Invocation) (command : Command) : Option Path × Run Output :=
  let settings :=
    loadSettings world.wording.malformedYaml world.files logged invocation.configPath
      (command.start world.files)
  match settings.outcome with
  | .error (.config fault) =>
    (registered, { settings with outcome := .ok (complaint [s!"❌ {fault.message}"]) })
  | .error failure => (registered, { settings with outcome := .error failure })
  | .ok { folder, .. } =>
    (folder, settings.andThen fun settings =>
      command.run world invocation.verbosity.quiet settings)

/-- Puts together what a run leaves behind: log lines come before messages. -/
def Result.ofRun (registered : Option Path) (files : FileSystem) (log : List Event → String)
    (run : Run Output) : Result :=
  match run.outcome with
  | .ok output =>
    { exitCode := output.exitCode, stdout := output.stdout,
      stderr := log run.events ++ output.messages, registered, files, calls := run.calls }
  | .error failure =>
    { exitCode := 1, stderr := log run.events, failure := some failure, registered, files,
      calls := run.calls }

def run (world : World) (moment : Log.Moment) (registered : Option Path)
    (arguments : List String) : Result :=
  match readInvocation world.files arguments with
  | .error halt =>
    Result.ofRun registered world.files (fun _ => "") (halt.run world.wording arguments)
  | .ok invocation =>
    match (Log.Setup.ofEnvironment invocation.verbosity world.environment).start world.files with
    | .error failure =>
      { exitCode := 1, failure := some failure, registered, files := world.files }
    | .ok (logging, files) =>
      let world := { world with files }
      let configured := Event.loggingConfigured (invocation.verbosity.levelName world.environment)
      let logged (events : List Event) :=
        logging.write moment ((configured :: events).map Event.record) files
      let (registered, run) :=
        match readCommand files invocation.command invocation.arguments with
        | .error halt => (registered, halt.run world.wording arguments)
        | .ok command => command.runWith world logged registered invocation
      Result.ofRun registered (logged run.events)
        (fun events => logging.consoleText moment ((configured :: events).map Event.record)) run

end ProductionClosure.CommandLine

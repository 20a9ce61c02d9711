import ProductionClosure.Log.Handler
import ProductionClosure.Run

/-!
Setting up logging for a run: the console, and a log file where one is named. The root lets through
whatever the more talkative of the two wants, so that neither hides a record from the other.
-/

namespace ProductionClosure.Log

structure Setup where
  level : String := "WARNING"
  file : Option String := none
  fileLevel : Option String := none
  deriving DecidableEq, Repr

namespace Setup

def consoleLevel (setup : Setup) : Level := Level.ofSetting setup.level

def fileName? (setup : Setup) : Option String := setup.file.filter (· ≠ "")

/-- The level of the log file, which is that of the console unless another one is named. -/
def levelOfFile (setup : Setup) : Level :=
  match setup.fileLevel.filter (· ≠ "") with
  | some name => Level.ofSetting name
  | none => setup.consoleLevel

end Setup

/-- The handlers at work. An open log file is known by its place, whatever happens to its name. -/
structure Logging where
  console : Handler
  file : Option (Handler × Place) := none
  deriving DecidableEq, Repr

namespace Logging

def handlers (logging : Logging) : List Handler :=
  logging.console :: (logging.file.map Prod.fst).toList

def rootLevel (logging : Logging) : Level :=
  match logging.file with
  | some (handler, _) => min logging.console.level handler.level
  | none => logging.console.level

/-- Whether a record gets past the root. Levels from zero down are switched off. -/
def passes (logging : Logging) (record : Record) : Bool :=
  0 < record.level && logging.rootLevel ≤ record.level

def linesOf (logging : Logging) (handler : Handler) (moment : Moment) (records : List Record) :
    String :=
  String.join ((records.filter fun record => logging.passes record && handler.accepts record).map
    (handler.line moment))

def consoleText (logging : Logging) (moment : Moment) (records : List Record) : String :=
  logging.linesOf logging.console moment records

def write (logging : Logging) (moment : Moment) (records : List Record) (files : FileSystem) :
    FileSystem :=
  match logging.file with
  | none => files
  | some (handler, place) =>
    files.append place (Text.encodeUtf8 (logging.linesOf handler moment records))

end Logging

/-- Sets up logging. The log file is opened at once, by its absolute name, and kept as it is. -/
def Setup.start (setup : Setup) (files : FileSystem) : Except Failure (Logging × FileSystem) :=
  let console := Handler.console setup.consoleLevel
  match setup.fileName? with
  | none => .ok ({ console }, files)
  | some name => do
    let path := (files.absoluteText (Path.ofString name)).toString
    let (place, files) ← (files.openForAppending path).mapError fun problem => .file problem path
    pure ({ console, file := some (Handler.file setup.levelOfFile, place) }, files)

structure Verbosity where
  debug : Bool := false
  verbose : Bool := false
  quiet : Bool := false
  deriving DecidableEq, Repr

/-- The name of the level: the most talkative option wins, then the environment, then WARNING. -/
def Verbosity.levelName (verbosity : Verbosity) (environment : Environment) : String :=
  if verbosity.debug then "DEBUG"
  else if verbosity.verbose then "INFO"
  else if verbosity.quiet then "ERROR"
  else (environment.value? "PRODEPS_LOG_LEVEL").getD "WARNING"

def Setup.ofEnvironment (verbosity : Verbosity) (environment : Environment) : Setup where
  level := verbosity.levelName environment
  file := environment.value? "PRODEPS_LOG_FILE"
  fileLevel := environment.value? "PRODEPS_LOG_FILE_LEVEL"

end ProductionClosure.Log

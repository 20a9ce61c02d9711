import ProductionClosure.Event
import ProductionClosure.Log.Setup

/-!
The root of the loggers of a process. It outlives the setups: each of them replaces the handlers at
once, and the level only when its log file is open, so a setup that fails leaves its console under
the level of the one before. A record is looked at by the root first and by each handler then.
-/

namespace ProductionClosure.Log

/-- A handler with the log file that its lines go to; without one they go to the error output. -/
structure Outlet where
  handler : Handler
  file : Option Place := none
  deriving DecidableEq, Repr

structure Root where
  outlets : List Outlet
  level : Level
  /-- Whether failures of handlers are told. -/
  tellsFailures : Bool
  deriving DecidableEq, Repr

namespace Root

def fresh : Root where
  outlets := []
  level := Level.warning
  tellsFailures := true

/-- Where records go as long as there are no handlers. -/
def lastResort : Outlet := { handler := ⟨Level.warning, .message, .none⟩ }

def working (root : Root) : List Outlet :=
  if root.outlets = [] then [lastResort] else root.outlets

/-- Whether a record gets past the root. Levels from zero down are switched off. -/
def passes (root : Root) (record : Record) : Bool :=
  0 < record.level && root.level ≤ record.level

def clear (root : Root) : Root := { root with outlets := [] }

def add (root : Root) (outlet : Outlet) : Root := { root with outlets := root.outlets ++ [outlet] }

/-- Ends a setup: from now on failures of handlers are passed over. -/
def settle (root : Root) (level : Level) : Root := { root with level, tellsFailures := false }

/-- Sets up logging, whatever the root was like. The disk is the one behind the attempt. -/
def setUp (root : Root) (setup : Setup) (files : FileSystem) :
    Except Failure Unit × Root × FileSystem :=
  let root := root.clear.add { handler := .console setup.consoleLevel }
  match setup.fileName? with
  | none => (.ok (), root.settle setup.consoleLevel, files)
  | some name =>
    let path := (files.absoluteText (Path.ofString name)).toString
    match files.openForAppending path with
    | .error problem => (.error (.file problem path), root, files)
    | .ok (place, files) =>
      let root := root.add ⟨.file setup.levelOfFile, some place⟩
      (.ok (), root.settle (min setup.consoleLevel setup.levelOfFile), files)

end Root

/-- A process as far as logging goes: its root, the disk, and its error output so far. -/
structure Process where
  root : Root := .fresh
  files : FileSystem
  shown : String := ""
  deriving DecidableEq, Repr

namespace Process

def write (process : Process) (outlet : Outlet) (line : String) : Process :=
  match outlet.file with
  | none => { process with shown := process.shown ++ line }
  | some place =>
    { process with files := process.files.append place (Text.encodeUtf8 line) }

def hand (process : Process) (moment : Moment) (record : Record) (outlet : Outlet) : Process :=
  if outlet.handler.accepts record then
    process.write outlet (outlet.handler.line moment record)
  else process

def log (process : Process) (moment : Moment) (record : Record) : Process :=
  if process.root.passes record then
    process.root.working.foldl (fun process outlet => process.hand moment record outlet) process
  else process

def logAll (process : Process) (records : List (Moment × Record)) : Process :=
  records.foldl (fun process stamped => process.log stamped.1 stamped.2) process

end Process

/-- How logging is set up: directly, or for a command, which tells so when it is done. -/
inductive Attempt where
  | direct (setup : Setup)
  | ofCommand (verbosity : Verbosity) (environment : Environment)
  deriving DecidableEq, Repr

namespace Attempt

def setup : Attempt → Setup
  | direct setup => setup
  | ofCommand verbosity environment => .ofEnvironment verbosity environment

def report : Attempt → List Event
  | direct _ => []
  | ofCommand verbosity environment => [.loggingConfigured (verbosity.levelName environment)]

end Attempt

namespace Process

def attempt (process : Process) (moment : Moment) (attempt : Attempt) :
    Except Failure Unit × Process :=
  let (outcome, root, files) := process.root.setUp attempt.setup process.files
  let process := { process with root, files }
  match outcome with
  | .ok () => (.ok (), process.logAll (attempt.report.map fun event => (moment, event.record)))
  | .error failure => (.error failure, process)

inductive Step where
  | attempt (attempt : Attempt)
  | log (record : Record)
  deriving DecidableEq, Repr

def step (process : Process) (moment : Moment) : Step → Process
  | .attempt attempt => (process.attempt moment attempt).2
  | .log record => process.log moment record

/-- The process after all that happened to it, failed attempts included. -/
def after (process : Process) (history : List (Moment × Step)) : Process :=
  history.foldl (fun process happened => process.step happened.1 happened.2) process

end Process

end ProductionClosure.Log

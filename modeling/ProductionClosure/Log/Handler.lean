import ProductionClosure.Log.Record

/-!
Where log lines go and what they look like. A handler takes the records that reach its level; the
more a handler lets through, the more its lines tell.
-/

namespace ProductionClosure.Log

structure Moment where
  date : String
  time : String
  deriving DecidableEq, Repr

inductive Detail where
  | message
  | origin
  | everything
  deriving DecidableEq, Repr

inductive Stamp where
  | none
  | time
  | dateAndTime
  deriving DecidableEq, Repr

def Detail.template : Detail → String
  | .message => "%(message)s"
  | .origin => "%(asctime)s [%(name)s] %(message)s"
  | .everything => "%(asctime)s %(levelname)-5s %(name)s:%(lineno)d — %(message)s"

def Stamp.template? : Stamp → Option String
  | .none => Option.none
  | .time => some "%H:%M:%S"
  | .dateAndTime => some "%Y-%m-%d %H:%M:%S"

def Stamp.text (stamp : Stamp) (moment : Moment) : String :=
  match stamp with
  | .none => ""
  | .time => moment.time
  | .dateAndTime => moment.date ++ " " ++ moment.time

def padded (width : Nat) (s : String) : String :=
  s ++ String.ofList (List.replicate (width - s.length) ' ')

structure Handler where
  level : Level
  detail : Detail
  stamp : Stamp
  deriving DecidableEq, Repr

namespace Handler

def accepts (handler : Handler) (record : Record) : Bool := handler.level ≤ record.level

/-- The line for a record. Source lines are not kept and shown as 0. -/
def line (handler : Handler) (moment : Moment) (record : Record) : String :=
  let stamp := handler.stamp.text moment
  match handler.detail with
  | .message => record.message ++ "\n"
  | .origin => s!"{stamp} [{record.logger}] {record.message}\n"
  | .everything =>
    stamp ++ " " ++ padded 5 record.level.name ++ s!" {record.logger}:0 — {record.message}\n"

/-- The console: bare messages from WARNING on, their origin from INFO on, everything below. -/
def console (level : Level) : Handler :=
  if level ≤ Level.debug then ⟨level, .everything, .time⟩
  else if level ≤ Level.info then ⟨level, .origin, .time⟩
  else ⟨level, .message, .none⟩

/-- A log file tells everything whatever its level. -/
def file (level : Level) : Handler := ⟨level, .everything, .dateAndTime⟩

end Handler

end ProductionClosure.Log

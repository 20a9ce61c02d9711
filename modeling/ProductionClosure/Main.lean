import ProductionClosure.CommandLine.Execution
import ProductionClosure.Json.Decoder
import ProductionClosure.Snapshot

/-!
The program. It takes a command line and reads a snapshot of the world from standard input; all that
it does is decided by `CommandLine.run`.
-/

open ProductionClosure

/-- The moment that log lines are stamped with: a snapshot has no clock. -/
def snapshotMoment : Log.Moment := ⟨"1970-01-01", "00:00:00"⟩

def main (arguments : List String) : IO UInt32 := do
  let text ← (← IO.getStdin).readToEnd
  match Json.decode text with
  | .error failure =>
    IO.eprintln ("Unreadable snapshot: " ++ failure.message)
    pure 2
  | .ok snapshot =>
    let result := CommandLine.run (Snapshot.world snapshot) snapshotMoment none arguments
    IO.print result.stdout
    IO.eprint result.stderr
    if let some failure := result.failure then IO.eprintln failure.message
    pure (UInt32.ofNat result.exitCode)

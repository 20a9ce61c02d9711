import ProductionClosure.Text.Newline
import ProductionClosure.Text.Quoted

/-!
Processes of the package manager as the program sees them: the call it makes, and how the process
turns out. What a process prints is read leniently, so that no octet makes a report unreadable.
-/

namespace ProductionClosure

abbrev Environment := List (String × String)

def Environment.set (environment : Environment) (name value : String) : Environment :=
  match environment with
  | [] => [(name, value)]
  | (n, v) :: rest =>
    if n = name then (name, value) :: rest else (n, v) :: Environment.set rest name value

/-- The variables of the first environment, overridden by those of the second one. -/
def Environment.over (environment changes : Environment) : Environment :=
  changes.foldl (fun env change => env.set change.1 change.2) environment

/-- The value of a variable that is set to something. -/
def Environment.value? (environment : Environment) (name : String) : Option String :=
  (environment.lookup name).filter (· ≠ "")

/-- A started process, or an attempt to start one. A call that names no folder or no environment
takes those of the program. -/
structure Call where
  command : List String
  folder : Option String
  environment : Option Environment
  deriving DecidableEq, Repr

inductive StartProblem where
  | missing
  | denied
  | nulCharacter
  deriving DecidableEq, Repr

def StartProblem.message (problem : StartProblem) (executable : String) : String :=
  match problem with
  | .missing => s!"[Errno 2] No such file or directory: {Text.quoted executable}"
  | .denied => s!"[Errno 13] Permission denied: {Text.quoted executable}"
  | .nulCharacter => "embedded null byte"

/-- How a process turns out. A stream may be missing altogether, and the system may refuse a start
for more reasons than have a name here, in words of its own. -/
inductive ProcessOutcome where
  | ended (stdout stderr : Option (List UInt8)) (code : Int)
  | notStarted (problem : StartProblem)
  | refused (words : String)
  deriving DecidableEq, Repr

def printedText (octets : List UInt8) : String :=
  Text.withUnixNewlines (Text.decodeUtf8Lossy octets)

end ProductionClosure

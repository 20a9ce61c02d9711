import ProductionClosure.FileSystem.Lookup
import ProductionClosure.Run
import ProductionClosure.Text.Blank
import ProductionClosure.World

/-!
The listing of installed packages: one command, run in the folder of a workspace. How it ended is
told apart from whether that is good enough, which depends on who asks.
-/

namespace ProductionClosure

/-- How the listing command ended. The complaints are trimmed. -/
inductive Listing where
  | notStarted (problem : StartProblem)
  | refused (words : String)
  | ended (output complaints : String) (code : Int)
  deriving DecidableEq, Repr

namespace Listing

def arguments : List String := ["ls", "--prod", "--json", "--depth=Infinity"]

def commandText (executable : String) : String :=
  String.intercalate " " (executable :: arguments)

def errorText (executable : String) : Listing → String
  | .notStarted problem => s!"Cannot run {executable}: {problem.message executable}"
  | .refused words => s!"Cannot run {executable}: {words}"
  | .ended _ complaints code =>
    if complaints = "" then s!"Command exited with code {code}" else complaints

/-- The listing that a process leaves behind; a missing stream is an empty one. -/
def ofOutcome : ProcessOutcome → Listing
  | .notStarted problem => .notStarted problem
  | .refused words => .refused words
  | .ended stdout stderr code =>
    .ended (printedText (stdout.getD [])) (Text.trim (printedText (stderr.getD []))) code

def run (world : World) (executable folder : String) (changes : Environment) : Run Listing := do
  Run.report (.executing (commandText executable) folder)
  Run.start
    { command := executable :: arguments
      folder := some folder
      environment := some (world.environment.over changes) }
  pure (ofOutcome (world.tools.listing folder))

end Listing

def noFolderText (folder : String) : String := s!"Working directory does not exist: {folder}"

end ProductionClosure

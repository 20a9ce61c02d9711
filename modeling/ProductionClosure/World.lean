import ProductionClosure.FileSystem.Basic
import ProductionClosure.Process
import ProductionClosure.Wording

/-!
The world around one run: the disk, the package manager, the variables, and the texts that are
passed on. Within a run the world stands still, so what is said about a run speaks of one state of
the disk.
-/

namespace ProductionClosure

/-- What a package manager does where there is no package. -/
def noManifest : ProcessOutcome :=
  .ended (some []) (some (Text.encodeUtf8 "ERR_PNPM_NO_IMPORTER_MANIFEST_FOUND")) 1

inductive Platform where
  | posix
  | windows
  deriving DecidableEq, Repr

def Platform.executable (platform : Platform) (command : String) : String :=
  match platform with
  | .posix => command
  | .windows => command ++ ".cmd"

/-- The package manager: how its listing turns out in each folder, how its version query turns out
(unless it takes too long), and which executables are on the search path. -/
structure Tools where
  listings : List (String × ProcessOutcome) := []
  version : Option ProcessOutcome := some (.notStarted .missing)
  onPath : List String := []
  platform : Platform := .posix
  deriving DecidableEq, Repr

def Tools.listing (tools : Tools) (folder : String) : ProcessOutcome :=
  (tools.listings.lookup folder).getD noManifest

structure World where
  files : FileSystem
  tools : Tools
  environment : Environment
  wording : Wording := {}

end ProductionClosure

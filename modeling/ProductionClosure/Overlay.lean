import ProductionClosure.Closure.PathSet
import ProductionClosure.Config.Loading

/-!
The overlay of a workspace: the folder with the same position below the overlay folder as the
workspace has below the repository root. Positions are those of real paths, so that a workspace has
one overlay under whatever links it is reached.
-/

namespace ProductionClosure

def FileSystem.real (files : FileSystem) (path : Path) : Except Failure Path :=
  FileSystem.answer files.realPath path

/-- The overlay of a workspace, unless the workspace lies outside the repository. -/
def overlayRoot (files : FileSystem) (workspace repoRoot : Path) (overlayFolder : String) :
    Run (Option Path) := do
  let workspace ← Run.ofExcept (files.real workspace)
  let root ← Run.ofExcept (files.real repoRoot)
  match workspace.relativeTo? root with
  | none =>
    Run.report (.outsideRepository workspace root)
    pure none
  | some position => pure (some (root / Path.ofString overlayFolder / position))

def findOverlay (files : FileSystem) (workspace repoRoot : Path) (overlayFolder : String) :
    Run (Option Path) := do
  match ← overlayRoot files workspace repoRoot overlayFolder with
  | none => pure none
  | some folder =>
    if ← Run.ofExcept (FileSystem.answer files.isDirectory? folder) then pure (some folder)
    else pure none

/-- The paths of both lists, each at its first mention. -/
def mergePaths (primary overlay : List String) : List String :=
  (PathSet.ofList (primary ++ overlay)).toList

end ProductionClosure

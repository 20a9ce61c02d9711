import ProductionClosure.Overlay
import ProductionClosure.Workspace

/-!
The production closure of a workspace with its overlay. The workspace itself has to resolve; the
overlay comes behind it and is borne with: when it cannot be resolved, a warning takes its place.
-/

namespace ProductionClosure

/-- The repository root that counts: the one given, else that of the settings, else the registered
one, else the workspace. -/
def effectiveRepoRoot (registered : Option Path) (workspace : Path) (given : Option Path)
    (config : Option Config) : Path :=
  ((given.or (config.bind Config.givenRoot?)).or registered).getD workspace

structure Resolved where
  workspace : Path
  repoRoot : Path
  paths : List String
  primaryCount : Nat
  overlayRoot : Option Path
  overlayCount : Nat
  warnings : List String
  deriving DecidableEq, Repr

inductive Resolution where
  | resolved (result : Resolved)
  | failed (workspace repoRoot : Path) (error : String) (reportExcerpt : Option String)
  deriving DecidableEq, Repr

namespace Resolution

def ok : Resolution → Bool
  | .resolved _ => true
  | .failed .. => false

def error : Resolution → Option String
  | .resolved _ => none
  | .failed _ _ error _ => some error

def reportExcerpt : Resolution → Option String
  | .resolved _ => none
  | .failed _ _ _ reportExcerpt => reportExcerpt

def paths : Resolution → List String
  | .resolved result => result.paths
  | .failed .. => []

def warnings : Resolution → List String
  | .resolved result => result.warnings
  | .failed .. => []

def primaryCount : Resolution → Nat
  | .resolved result => result.primaryCount
  | .failed .. => 0

def overlayCount : Resolution → Nat
  | .resolved result => result.overlayCount
  | .failed .. => 0

def overlayRoot : Resolution → Option Path
  | .resolved result => result.overlayRoot
  | .failed .. => none

def pathJson (path : Option Path) : Json := Json.ofString? (path.map Path.toString)

/-- The answer as an object: an error stands alone, and warnings are left out where there are
none. -/
def toMembers : Resolution → Json.Members
  | .failed _ _ error reportExcerpt =>
    ("error", .string error) ::
      (reportExcerpt.map fun text => ("output_excerpt", Json.string text)).toList
  | .resolved result =>
    [("workspace", .string result.workspace.toString),
      ("repo_root", .string result.repoRoot.toString), ("paths", Json.ofStrings result.paths),
      ("primary_count", .int result.primaryCount), ("overlay_root", pathJson result.overlayRoot),
      ("overlay_count", .int result.overlayCount)]
      ++ if result.warnings.isEmpty then [] else [("warnings", Json.ofStrings result.warnings)]

end Resolution

structure OverlayPart where
  folder : Option Path := none
  paths : List String := []
  warnings : List String := []
  deriving DecidableEq, Repr

/-- Resolves the overlay folder; a failure of resolving becomes a warning. -/
def resolveOverlay (world : World) (config : Config) (folder : Path) : Run OverlayPart := do
  Run.report (.overlayMerged folder)
  match ← (resolveWorkspace world config folder).attempt with
  | .ok part => pure ⟨some folder, part.paths, part.warnings⟩
  | .error failure =>
    Run.report (.overlaySkipped failure.message)
    pure ⟨some folder, [], [Event.overlaySkippedText failure.message]⟩

def overlayPart (world : World) (config : Config) (workspace repoRoot : Path) :
    Run OverlayPart := do
  match ← findOverlay world.files workspace repoRoot config.overlayFolder with
  | some folder => resolveOverlay world config folder
  | none =>
    let candidate ← overlayRoot world.files workspace repoRoot config.overlayFolder
    Run.report (.overlayAbsent candidate)
    pure {}

def Resolved.ofParts (repoRoot : Path) (primary : WorkspaceResolution) (overlay : OverlayPart) :
    Resolved where
  workspace := primary.folder
  repoRoot := repoRoot
  paths := mergePaths primary.paths overlay.paths
  primaryCount := primary.paths.length
  overlayRoot := overlay.folder
  overlayCount := overlay.paths.length
  warnings := primary.warnings ++ overlay.warnings

def resolve (world : World) (config : Config) (workspace repoRoot : Path) (wantsOverlay : Bool) :
    Run Resolution := do
  match ← (resolveWorkspace world config workspace).attempt with
  | .error failure =>
    Run.report (.resolutionFailed workspace failure.message)
    pure (.failed workspace repoRoot failure.message failure.reportExcerpt?)
  | .ok primary =>
    let overlay ←
      if wantsOverlay && config.overlay then overlayPart world config workspace repoRoot
      else pure {}
    let result := Resolved.ofParts repoRoot primary overlay
    Run.report (.resolved result.paths.length workspace)
    pure (.resolved result)

end ProductionClosure

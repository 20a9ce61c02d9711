import ProductionClosure.Log.Record
import ProductionClosure.Path

/-!
What a run reports on its way. Each event has one wording, one level and one place in the tree of
loggers.
-/

namespace ProductionClosure

inductive Event where
  | loggingConfigured (level : String)
  | configLoading (path : Path)
  | configLoaded (path : Path)
  | executing (command folder : String)
  | exitTolerated (executable : String) (code : Int) (folder error : String)
  | entriesDecoded (count : Nat)
  | pathsCollected (count : Nat)
  | linkMissing (name : List String)
  | pathsHoisted (hoisted total : Nat) (linkRoot : Path)
  | outsideRepository (workspace root : Path)
  | noEntries (folder : Path)
  | workspaceResolved (paths entries : Nat) (folder : Path)
  | resolutionFailed (workspace : Path) (error : String)
  | overlayAbsent (candidate : Option Path)
  | overlayMerged (folder : Path)
  | overlaySkipped (error : String)
  | resolved (paths : Nat) (workspace : Path)
  deriving DecidableEq, Repr

namespace Event

def level : Event → Log.Level
  | .exitTolerated .. | .noEntries .. | .overlaySkipped .. => .warning
  | .configLoaded .. | .workspaceResolved .. | .overlayMerged .. | .resolved .. => .info
  | _ => .debug

def logger : Event → String
  | .loggingConfigured .. => "prodeps"
  | .configLoading .. | .configLoaded .. => "prodeps.core.config.loader"
  | .executing .. => "prodeps.adapters.languages.pnpm"
  | .exitTolerated .. => "prodeps.core.services.tree_source"
  | .entriesDecoded .. => "prodeps.core.services.tree_parser"
  | .pathsCollected .. => "prodeps.core.services.closure"
  | .linkMissing .. | .pathsHoisted .. => "prodeps.core.services.store_paths"
  | .outsideRepository .. => "prodeps.core.services.overlay"
  | .noEntries .. | .workspaceResolved .. => "prodeps.core.services.pipeline"
  | .resolutionFailed .. | .overlayAbsent .. | .overlayMerged .. | .overlaySkipped ..
  | .resolved .. => "prodeps.core.use_cases.resolve"

def noEntriesText (folder : Path) : String := s!"No workspace entries reported for {folder}"

def overlaySkippedText (error : String) : String := s!"Overlay skipped: {error}"

def message : Event → String
  | .loggingConfigured level => s!"Logging configured at {level}"
  | .configLoading path => s!"Loading resolver config from {path}"
  | .configLoaded path => s!"Loaded resolver config from {path}"
  | .executing command folder => s!"Executing: {command} (cwd={folder})"
  | .exitTolerated executable code folder error =>
    s!"{executable} exited with code {code} in {folder}; using its output anyway: {error}"
  | .entriesDecoded count => s!"Decoded {count} workspace entries"
  | .pathsCollected count => s!"Collected {count} distinct dependency paths"
  | .linkMissing name =>
    "No hoisted link for " ++ String.intercalate "/" name ++ ", keeping store path"
  | .pathsHoisted hoisted total linkRoot => s!"Hoisted {hoisted} of {total} paths under {linkRoot}"
  | .outsideRepository workspace root => s!"{workspace} is outside repo root {root}; no overlay"
  | .noEntries folder => noEntriesText folder
  | .workspaceResolved paths entries folder =>
    s!"Resolved {paths} production paths from {entries} entries in {folder}"
  | .resolutionFailed workspace error => s!"Resolution failed for {workspace}: {error}"
  | .overlayAbsent candidate =>
    "No overlay at " ++ (candidate.map Path.toString).getD "None"
  | .overlayMerged folder => s!"Merging distro overlay {folder}"
  | .overlaySkipped error => overlaySkippedText error
  | .resolved paths workspace => s!"{paths} production paths for {workspace}"

def record (event : Event) : Log.Record := ⟨event.level, event.logger, event.message⟩

end Event

end ProductionClosure

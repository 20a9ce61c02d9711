import ProductionClosure.FileSystem.Lookup
import ProductionClosure.Schema.Basic

/-!
Why a settings file is refused.
-/

namespace ProductionClosure.Config

inductive Fault where
  | missing (path : Path)
  | unreadable (path : Path) (problem : FileProblem)
  | malformed (path : Path) (words : String)
  | notMapping (path : Path) (kind : String)
  | wrappedNotMapping (path : Path)
  | invalid (rejection : Schema.Rejection)
  deriving DecidableEq, Repr

def Fault.message : Fault → String
  | .missing path => s!"Config file not found: {path}"
  | .unreadable path problem => s!"Cannot read {path}: {problem.message path.toString}"
  | .malformed path words => s!"Invalid YAML in {path}: {words}"
  | .notMapping path kind => s!"Expected a YAML mapping in {path}, got {kind}"
  | .wrappedNotMapping path => s!"Expected a mapping under 'prodeps' in {path}"
  | .invalid rejection => s!"Invalid resolver configuration: {rejection.message}"

end ProductionClosure.Config

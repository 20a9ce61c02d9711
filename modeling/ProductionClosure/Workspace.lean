import ProductionClosure.Closure.Walk
import ProductionClosure.Hoisting
import ProductionClosure.PackageManager.Query

/-!
The production paths of one folder: its report is asked for, read, walked, and the store paths are
replaced by links. Every call asks anew, since what is installed may change between calls.
-/

namespace ProductionClosure

def readEntriesOf (raw : String) : Run (List WorkspaceEntry) := do
  let entries ← Run.ofExcept ((parseReport raw).mapError (Failure.ofReportFault raw))
  Run.report (.entriesDecoded entries.length)
  pure entries

def collectClosure (entries : List WorkspaceEntry) : Run PathSet := do
  let paths := closure entries
  Run.report (.pathsCollected paths.size)
  pure paths

structure WorkspaceResolution where
  folder : Path
  entryCount : Nat
  paths : List String
  warnings : List String
  deriving DecidableEq, Repr

def warnOfNoEntries (folder : Path) (entries : List WorkspaceEntry) : Run (List String) :=
  if entries.isEmpty then do
    Run.report (.noEntries folder)
    pure [Event.noEntriesText folder]
  else pure []

def resolveWorkspace (world : World) (config : Config) (folder : Path) :
    Run WorkspaceResolution := do
  let raw ← queryTree world config.packageManager folder.toString
  let entries ← readEntriesOf raw
  let warnings ← warnOfNoEntries folder entries
  let storePaths ← collectClosure entries
  let paths ← hoist world.files folder config.layout storePaths.toList
  Run.report (.workspaceResolved paths.length entries.length folder)
  pure ⟨folder, entries.length, paths, warnings⟩

end ProductionClosure

import ProductionClosure.CommandLine.Arguments
import ProductionClosure.CommandLine.Terminal
import ProductionClosure.PackageManager.Operation
import ProductionClosure.Resolution

/-!
What each command prints. Paths and answers go to standard output; complaints and warnings go to
standard error behind the log lines, so that standard output can be read by a program.
-/

namespace ProductionClosure.CommandLine

structure Output where
  exitCode : Nat := 0
  stdout : String := ""
  messages : String := ""
  deriving DecidableEq, Repr

def lines (texts : List String) : String := String.join (texts.map line)

def complaint (texts : List String) : Output :=
  { exitCode := 1, messages := lines texts }

structure Settings where
  config : Config
  path : Option Path
  folder : Option Path
  deriving DecidableEq, Repr

/-- Loads the settings from the file named, or from the nearest one; without any, all settings have
their defaults. The file may be the log file, so it is read from the disk as it is `after` the
events that come before. -/
def loadSettings (words : String → String) (files : FileSystem) (after : List Event → FileSystem)
    (named : Option Path) (start : Path) : Run Settings := do
  let path ← match named with
    | some path => pure (some path)
    | none => Run.ofExcept (Config.find files start)
  match path with
  | none => pure ⟨{}, none, none⟩
  | some path => do
    let config ← Config.load words (after [.configLoading path]) path
    let folder ← Run.ofExcept (Config.folderOf files path)
    pure ⟨config, some path, some folder⟩

def showResolution (quiet json : Bool) : Resolution → Output
  | .failed _ _ error reportExcerpt =>
    complaint (s!"❌ {error}" ::
      ((reportExcerpt.filter (· ≠ "")).map fun text => s!"   Output began with: {text}").toList)
  | .resolved result =>
    if json then { stdout := line (Json.ofStrings result.paths).toBlock }
    else
      { stdout := lines result.paths
        messages :=
          if quiet then "" else lines (result.warnings.map fun warning => s!"⚠️  {warning}") }

def runResolve (world : World) (registered : Option Path) (config : Config) (workspace : Path)
    (repoRoot : Option Path) (overlay json quiet : Bool) : Run Output := do
  let root := effectiveRepoRoot registered workspace repoRoot (some config)
  let resolution ← resolve world config workspace root overlay
  pure (showResolution quiet json resolution)

structure OverlayStatus where
  workspace : Path
  repoRoot : Path
  folder : Option Path
  isPresent : Bool
  isEnabled : Bool
  deriving DecidableEq, Repr

def OverlayStatus.toJson (status : OverlayStatus) : Json :=
  .object
    [("workspace", .string status.workspace.toString),
      ("repo_root", .string status.repoRoot.toString),
      ("overlay_root", Resolution.pathJson status.folder), ("exists", .bool status.isPresent),
      ("enabled", .bool status.isEnabled)]

def OverlayStatus.texts (status : OverlayStatus) : List String :=
  match status.folder with
  | none => [s!"⚠️  {status.workspace} is outside {status.repoRoot}; no overlay"]
  | some folder =>
    let presence := if status.isPresent then "present" else "absent"
    s!"{folder} ({presence})" ::
      if status.isEnabled then [] else ["   overlay merging is disabled in config"]

def overlayStatus (world : World) (config : Config) (workspace repoRoot : Path) :
    Run OverlayStatus := do
  let folder ← overlayRoot world.files workspace repoRoot config.overlayFolder
  let isPresent ← match folder with
    | none => pure false
    | some folder => Run.ofExcept (FileSystem.answer world.files.isDirectory? folder)
  pure ⟨workspace, repoRoot, folder, isPresent, config.overlay⟩

def runOverlay (world : World) (registered : Option Path) (config : Config) (workspace : Path)
    (repoRoot : Option Path) (json : Bool) : Run Output := do
  let root := effectiveRepoRoot registered workspace repoRoot (some config)
  let status ← overlayStatus world config workspace root
  pure { stdout := if json then line status.toJson.toBlock else lines status.texts }

def versionContext (files : FileSystem) : ActionContext where
  action := ⟨"pnpm-version", "", PackageManager.adapterName, [("operation", .string "version")]⟩
  folder := (Path.ofString files.workingFolder).toString

structure ConfigReport where
  settings : Settings
  executable : String
  isAvailable : Bool
  version : Option String

def ConfigReport.toJson (report : ConfigReport) : Json :=
  .object
    [("config_file", Resolution.pathJson report.settings.path),
      ("config", .object report.settings.config.toMembers),
      ("package_manager_available", .bool report.isAvailable),
      ("package_manager_version", Json.ofString? report.version)]

def ConfigReport.texts (report : ConfigReport) : List String :=
  let file := (report.settings.path.map Path.toString).getD "(defaults)"
  let version := report.version.getD "unknown version"
  ["✅ Configuration is valid", s!"   File: {file}"]
    ++ report.settings.config.toMembers.map (fun (key, value) => s!"   {key}: {value.plainText}")
    ++ [if report.isAvailable then s!"   {report.executable}: {version}"
        else s!"⚠️  {report.executable} not found on PATH", ""]

def runCheckConfig (world : World) (settings : Settings) (json : Bool) : Run Output := do
  let manager := settings.config.packageManager
  let isAvailable := PackageManager.isAvailable world.tools manager
  let version ←
    if isAvailable then do
      let receipt ← PackageManager.execute world manager (versionContext world.files)
      pure (if receipt.ok then some receipt.output else none)
    else pure none
  let report : ConfigReport :=
    ⟨settings, world.tools.platform.executable manager, isAvailable, version⟩
  pure { stdout := if json then line report.toJson.toBlock else lines report.texts }

end ProductionClosure.CommandLine

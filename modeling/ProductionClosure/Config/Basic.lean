import ProductionClosure.Json.Printer
import ProductionClosure.Path
import ProductionClosure.Schema.Scalar
import ProductionClosure.StorePath
import ProductionClosure.Yaml.Value

/-!
The settings of a run. Each has a default that fits a stock installation; a record of settings may
give any of them and nothing else.
-/

namespace ProductionClosure

structure Config where
  packageManager : String := "pnpm"
  linkFolder : String := "node_modules"
  storeMarker : String := ".pnpm"
  overlayFolder : String := ".build/distro/npm"
  overlay : Bool := true
  repoRoot : Option String := none
  deriving DecidableEq, Repr, Inhabited

namespace Config

def layout (config : Config) : StoreLayout := ⟨config.linkFolder, config.storeMarker⟩

def givenRoot? (config : Config) : Option Path :=
  (config.repoRoot.filter (· ≠ "")).map Path.ofString

/-- A key in a record of settings. Only texts can be names. -/
inductive Key where
  | name (text : String)
  | other (shown : String)
  deriving DecidableEq, Repr

structure Setting where
  key : Key
  value : Schema.Shape

def names : List String :=
  ["package_manager", "link_dir", "store_marker", "overlay_dir", "overlay", "repo_root"]

def value? (settings : List Setting) (name : String) : Option Schema.Shape :=
  (settings.find? fun setting => setting.key = .name name).map Setting.value

def setting {α : Type} (settings : List Setting) (name : String)
    (check : Schema.Shape → Except Schema.Problem α) (default : α) : Schema.Checked α :=
  match value? settings name with
  | none => .valid default
  | some shape => Schema.atKey name (check shape)

def keyDefect? : Key → Option Schema.Defect
  | .name text => if names.contains text then none else some ⟨[text], .extraKey⟩
  | .other shown => some ⟨[shown], .keyNotString⟩

/-- No key but the names of settings, every other key being a defect in its own right. -/
def checkKeys (settings : List Setting) : Schema.Checked Unit :=
  match settings.filterMap fun setting => keyDefect? setting.key with
  | [] => .valid ()
  | defects => .invalid defects

def check (settings : List Setting) : Schema.Checked Config :=
  (fun manager link marker folder overlay root () => ⟨manager, link, marker, folder, overlay, root⟩)
    <$> setting settings "package_manager" Schema.textOf "pnpm"
    <*> setting settings "link_dir" Schema.textOf "node_modules"
    <*> setting settings "store_marker" Schema.textOf ".pnpm"
    <*> setting settings "overlay_dir" Schema.textOf ".build/distro/npm"
    <*> setting settings "overlay" Schema.boolOf true
    <*> setting settings "repo_root" Schema.optionalTextOf none
    <*> checkKeys settings

def ofSettings (settings : List Setting) : Except Schema.Rejection Config :=
  (check settings).toExcept "ResolverConfig"

def ofMembers (members : Json.Members) : Except Schema.Rejection Config :=
  ofSettings (members.map fun (key, value) => ⟨.name key, value.shape⟩)

def ofJson : Json → Except Schema.Rejection Config
  | .object members => ofMembers members
  | _ => .error (Schema.notRecord "ResolverConfig")

def toMembers (config : Config) : Json.Members :=
  [("package_manager", .string config.packageManager), ("link_dir", .string config.linkFolder),
    ("store_marker", .string config.storeMarker), ("overlay_dir", .string config.overlayFolder),
    ("overlay", .bool config.overlay), ("repo_root", Json.ofString? config.repoRoot)]

end Config

namespace Yaml.Value

def shape : Value → Schema.Shape
  | .null => .null
  | .bool b => .bool b
  | .int n => .int n
  | .float x => .float x
  | .nan _ => .float .nan
  | .string s => .string s
  | .bytes octets => .bytes octets
  | .timestamp _ | .list _ | .set _ | .mapping _ => .other

def settingKey : Value → Config.Key
  | .string s => .name s
  | value => .other value.shownKey

def settings (pairs : List (Value × Value)) : List Config.Setting :=
  pairs.map fun (key, value) => ⟨key.settingKey, value.shape⟩

end Yaml.Value

end ProductionClosure

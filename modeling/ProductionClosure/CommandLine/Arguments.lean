import ProductionClosure.CommandLine.Options
import ProductionClosure.Failure
import ProductionClosure.Log.Setup

/-!
The commands and their arguments. Paths on the command line are looked at while it is read: a
workspace and a repository root have to be folders, a settings file need not be there but has to be
readable if it is.
-/

namespace ProductionClosure.CommandLine

inductive Info where
  | version
  | help (command : List String)
  deriving DecidableEq, Repr

inductive Halt where
  | usage (problem : UsageProblem)
  | info (info : Info)
  | failed (failure : Failure)
  deriving DecidableEq, Repr

structure GlobalOptions where
  verbosity : Log.Verbosity := {}
  configPath : Option String := none
  info : Option Info := none
  deriving DecidableEq, Repr

def globalSpecs : List (OptionSpec GlobalOptions) :=
  [⟨["--version"], .flag fun o => { o with info := o.info.or (some .version) }⟩,
    ⟨["--verbose", "-v"], .flag fun o => { o with verbosity.verbose := true }⟩,
    ⟨["--quiet", "-q"], .flag fun o => { o with verbosity.quiet := true }⟩,
    ⟨["--debug"], .flag fun o => { o with verbosity.debug := true }⟩,
    ⟨["--config", "-c"], .value fun path o => { o with configPath := some path }⟩,
    ⟨["--help"], .flag fun o => { o with info := o.info.or (some (.help [])) }⟩]

structure CommandOptions where
  repoRoot : Option String := none
  overlay : Bool := true
  json : Bool := false
  help : Bool := false
  deriving DecidableEq, Repr

def helpSpec : OptionSpec CommandOptions := ⟨["--help"], .flag fun o => { o with help := true }⟩

def jsonSpec : OptionSpec CommandOptions :=
  ⟨["--json-output", "--json"], .flag fun o => { o with json := true }⟩

def repoRootSpec : OptionSpec CommandOptions :=
  ⟨["--repo-root"], .value fun path o => { o with repoRoot := some path }⟩

def noOverlaySpec : OptionSpec CommandOptions :=
  ⟨["--no-overlay"], .flag fun o => { o with overlay := false }⟩

inductive Command where
  | resolve (workspace : Path) (repoRoot : Option Path) (overlay json : Bool)
  | overlay (workspace : Path) (repoRoot : Option Path) (json : Bool)
  | checkConfig (json : Bool)
  deriving DecidableEq, Repr

inductive CommandName where
  | resolve
  | overlay
  | config
  deriving DecidableEq, Repr

def CommandName.named : List (String × CommandName) :=
  [("resolve", .resolve), ("overlay", .overlay), ("config", .config)]

def folderArgument (files : FileSystem) (path : String) : Except Halt Path :=
  match files.status path with
  | .ok .directory => .ok (Path.ofString path)
  | .ok _ => .error (.usage (.notFolder path))
  | .error .nulCharacter => .error (.failed (.file .nulCharacter path))
  | .error _ => .error (.usage (.noSuchPath path))

/-- A path that may lead nowhere but not to an unreadable file. The empty one counts as none. -/
def configArgument (files : FileSystem) (path : String) : Except Halt (Option Path) :=
  match files.status path with
  | .ok (.file _ false) => .error (.usage (.unreadable path))
  | .error .nulCharacter => .error (.failed (.file .nulCharacter path))
  | _ => .ok (if path = "" then none else some (Path.ofString path))

/-- What options in place of a command ask for, or that there is no such command. -/
def unknownCommand (info : List String → Except UsageProblem (Option Info)) (name : String)
    (rest : List String) : Halt :=
  match info (name :: rest) with
  | .ok (some info) => .info info
  | _ => .usage (.noSuchCommand name)

def readGlobal (arguments : List String) : Except UsageProblem (GlobalOptions × List String) :=
  readArguments globalSpecs false {} arguments

structure Invocation where
  verbosity : Log.Verbosity
  configPath : Option Path
  command : CommandName
  arguments : List String
  deriving DecidableEq, Repr

def readInvocation (files : FileSystem) (arguments : List String) : Except Halt Invocation := do
  let (options, rest) ← (readGlobal arguments).mapError .usage
  if let some info := options.info then throw (.info info)
  let configPath ← match options.configPath with
    | none => pure none
    | some path => configArgument files path
  match rest with
  | [] => throw (.usage .missingCommand)
  | name :: arguments =>
    match CommandName.named.lookup name with
    | some command => pure ⟨options.verbosity, configPath, command, arguments⟩
    | none =>
      throw (unknownCommand (fun again => (readGlobal again).map fun o => o.1.info) name arguments)

def readCommandOptions (command : List String) (specs : List (OptionSpec CommandOptions))
    (anywhere : Bool) (arguments : List String) :
    Except Halt (CommandOptions × List String) := do
  let (options, rest) ←
    (readArguments (specs ++ [helpSpec]) anywhere {} arguments).mapError .usage
  if options.help then throw (.info (.help command))
  pure (options, rest)

/-- The folders that a command is about: the repository root if one is given, and the workspace,
which is the working folder unless another one is named. -/
def readFolders (files : FileSystem) (options : CommandOptions) (rest : List String) :
    Except Halt (Path × Option Path) := do
  let repoRoot ← match options.repoRoot with
    | none => pure none
    | some path => some <$> folderArgument files path
  let workspace ← folderArgument files (rest.headD ".")
  if 1 < rest.length then throw (.usage (.extraArguments (rest.drop 1)))
  pure (workspace, repoRoot)

def readConfigCommand (arguments : List String) : Except Halt Command := do
  let (_, rest) ← readCommandOptions ["config"] [] false arguments
  match rest with
  | [] => throw (.usage .missingCommand)
  | "check" :: arguments =>
    let (options, rest) ← readCommandOptions ["config", "check"] [jsonSpec] true arguments
    if rest ≠ [] then throw (.usage (.extraArguments rest))
    pure (.checkConfig options.json)
  | name :: arguments =>
    throw (unknownCommand
      (fun again => (readArguments [helpSpec] false {} again).map fun o =>
        if o.1.help then some (.help ["config"]) else none)
      name arguments)

def readCommand (files : FileSystem) (name : CommandName) (arguments : List String) :
    Except Halt Command := do
  match name with
  | .resolve =>
    let (options, rest) ←
      readCommandOptions ["resolve"] [repoRootSpec, noOverlaySpec, jsonSpec] true arguments
    let (workspace, repoRoot) ← readFolders files options rest
    pure (.resolve workspace repoRoot options.overlay options.json)
  | .overlay =>
    let (options, rest) ←
      readCommandOptions ["overlay"] [repoRootSpec, jsonSpec] true arguments
    let (workspace, repoRoot) ← readFolders files options rest
    pure (.overlay workspace repoRoot options.json)
  | .config => readConfigCommand arguments

end ProductionClosure.CommandLine

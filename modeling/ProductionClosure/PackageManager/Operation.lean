import ProductionClosure.PackageManager.Action
import ProductionClosure.PackageManager.Listing
import ProductionClosure.PackageManager.Receipt

/-!
Carrying out an action of the package manager. The action names an operation in its parameters; an
action that cannot be carried out gets a receipt that says why.
-/

namespace ProductionClosure

inductive Operation where
  | ls
  | version
  deriving DecidableEq, Repr

inductive Refusal where
  | noOperation
  | unknownOperation (shown : String)
  | noFolder (folder : String)
  deriving DecidableEq, Repr

def Refusal.message : Refusal → String
  | .noOperation => "Missing required param: 'operation'"
  | .unknownOperation shown => s!"Unknown operation '{shown}'. Valid: ls, version"
  | .noFolder folder => noFolderText folder

namespace Operation

def named : List (String × Operation) := [("ls", .ls), ("version", .version)]

/-- Zero, nothing and the empty values stand for no operation at all. -/
def isAbsent : Json → Bool
  | .null | .bool false => true
  | .int n => n = 0
  | .float x => x.isZero
  | .string s => s = ""
  | .array items => items.isEmpty
  | .object members => members.isEmpty
  | .bool true => false

/-- The operation that parameters name. A container cannot even be looked up among the names, and an
integer with too many digits cannot be shown in the complaint about it. -/
def ofParams (params : Json.Members) : Except Failure (Except Refusal Operation) :=
  let value := (params.get? "operation").getD (.string "")
  if isAbsent value then .ok (.error .noOperation)
  else
    match value with
    | .string name =>
      match named.lookup name with
      | some operation => .ok (.ok operation)
      | none => .ok (.error (.unknownOperation name))
    | .array _ | .object _ => .error (.unhashable value.kindName)
    | .int n =>
      if Json.isTooLong n then .error .integerNotShown
      else .ok (.error (.unknownOperation (toString n)))
    | .null | .bool _ | .float _ => .ok (.error (.unknownOperation value.plainText))

def ofContext (files : FileSystem) (context : ActionContext) :
    Except Failure (Except Refusal Operation) := do
  match ← ofParams context.action.params with
  | .error refusal => pure (.error refusal)
  | .ok operation =>
    if files.isDirectoryText context.folder then pure (.ok operation)
    else pure (.error (.noFolder context.folder))

end Operation

namespace PackageManager

def adapterName : String := "pnpm"

def shown : String := "<PnpmAdapter name=" ++ Text.quoted adapterName ++ ">"

def isAvailable (tools : Tools) (packageManager : String) : Bool :=
  tools.onPath.contains (tools.platform.executable packageManager)

/-- The version that the package manager prints; an exit with a complaint, a failed start and a
timeout leave it unknown. -/
def version (world : World) (packageManager : String) : Run (Option String) := do
  let executable := world.tools.platform.executable packageManager
  Run.start { command := [executable, "--version"], folder := none, environment := none }
  match world.tools.version with
  | some (.ended (some stdout) _ 0) => pure (some (Text.trim (printedText stdout)))
  | some (.ended none _ 0) => Run.fail .noVersionText
  | some (.notStarted .nulCharacter) => Run.fail (.notStarted .nulCharacter executable)
  | _ => pure none

def failed (context : ActionContext) (error : String) (metadata : Json.Members) : Receipt :=
  { adapter := adapterName, actionId := context.action.id, ok := false, error := some error,
    metadata }

def succeeded (context : ActionContext) (output : String) (metadata : Json.Members) :
    Receipt :=
  { adapter := adapterName, actionId := context.action.id, output, metadata }

/-- The receipt for the version; an empty one is as good as none. -/
def versionReceipt (context : ActionContext) (version : Option String) : Receipt :=
  match version.filter (· ≠ "") with
  | some text => succeeded context text [("pnpm_version", .string text)]
  | none => failed context "Could not determine pnpm version" []

def listingReceipt (context : ActionContext) (executable : String) (listing : Listing) : Receipt :=
  let command := ("command", Json.string (Listing.commandText executable))
  match listing with
  | .notStarted _ | .refused _ =>
    failed context (listing.errorText executable) [command, ("stdout", .string "")]
  | .ended output complaints code =>
    if code = 0 then
      succeeded context output [command, ("return_code", .int 0), ("stderr", .string complaints)]
    else
      failed context (listing.errorText executable)
        [command, ("return_code", .int code), ("stdout", .string output)]

def execute (world : World) (packageManager : String) (context : ActionContext) : Run Receipt := do
  match ← Run.ofExcept (Operation.ofContext world.files context) with
  | .error refusal => pure (failed context refusal.message [])
  | .ok .version => do
    let text ← version world packageManager
    pure (versionReceipt context text)
  | .ok .ls =>
    let executable := world.tools.platform.executable packageManager
    let listing ← Listing.run world executable context.folder context.environment
    pure (listingReceipt context executable listing)

end PackageManager

end ProductionClosure

import ProductionClosure.PackageManager.Operation

/-!
Asking for the production dependencies of a folder. Output wins over the exit code: whatever the
package manager printed is taken, and only silence is a failure. Nothing is asked twice.

There are two ways to the report. One reads it off the listing itself; the other carries out the
action that lists the folder and reads the report off its receipt.
-/

namespace ProductionClosure

/-- The variables that leave out what is needed for development only. -/
def productionEnvironment : Environment := [("NODE_ENV", "production")]

/-- The text of a listing that is good enough to be read, or why there is none. -/
def Listing.usable (executable folder : String) (listing : Listing) : Run String :=
  match listing with
  | .notStarted _ | .refused _ =>
    Run.fail (.sourceUnavailable folder (listing.errorText executable))
  | .ended output _ code =>
    if code = 0 then pure output
    else if Text.allBlank output then
      Run.fail (.sourceUnavailable folder (listing.errorText executable))
    else do
      Run.report (.exitTolerated executable code folder (listing.errorText executable))
      pure output

def queryTree (world : World) (packageManager folder : String) : Run String := do
  let executable := world.tools.platform.executable packageManager
  if world.files.isDirectoryText folder then
    let listing ← Listing.run world executable folder productionEnvironment
    listing.usable executable folder
  else Run.fail (.sourceUnavailable folder (noFolderText folder))

/-! ### The way through the receipt -/

namespace PackageManager

def listingContext (folder : String) : ActionContext where
  action := ⟨"pnpm-ls", "production tree", adapterName, [("operation", .string "ls")]⟩
  folder := folder
  environment := productionEnvironment

end PackageManager

namespace Receipt

def keptOutput (receipt : Receipt) : String :=
  ((receipt.metadata.get? "stdout").bind Json.string?).getD ""

def keptCode? (receipt : Receipt) : Option Int :=
  match receipt.metadata.get? "return_code" with
  | some (.int code) => some code
  | _ => none

/-- The report that a receipt gives: the output of a success, or that beside a failure if it is not
blank. -/
def report (executable folder : String) (receipt : Receipt) : Run String :=
  if receipt.ok then pure receipt.output
  else if Text.allBlank receipt.keptOutput then
    Run.fail (.sourceUnavailable folder ((receipt.error.filter (· ≠ "")).getD "no output"))
  else do
    Run.report
      (.exitTolerated executable (receipt.keptCode?.getD 0) folder (receipt.error.getD ""))
    pure receipt.keptOutput

end Receipt

end ProductionClosure

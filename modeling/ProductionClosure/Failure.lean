import ProductionClosure.Config.Fault
import ProductionClosure.Dependency.Reading
import ProductionClosure.FileSystem.RealPath
import ProductionClosure.PackageManager.Receipt
import ProductionClosure.Process
import ProductionClosure.Yaml.Problem

/-!
Why a request ends without an answer. Two of the causes belong to resolving itself and can be borne
with; a third one is the user's settings file. All others come from the disk or from the data, where
nothing was prepared for them.
-/

namespace ProductionClosure

inductive Failure where
  | sourceUnavailable (folder detail : String)
  | malformedReport (fault : ReportFault) (raw : String)
  | config (fault : Config.Fault)
  | rejected (rejection : Schema.Rejection)
  | receiptFields (fault : Receipt.FieldFault)
  | file (problem : FileProblem) (path : String)
  | linkLoop (path : Path)
  | undecodable (fault : Text.Utf8Fault)
  | integerTooLong (digits : Nat)
  | integerNotShown
  | scalar (problem : Yaml.ScalarProblem)
  | nestedTooDeeply
  | unhashable (kind : String)
  | notStarted (problem : StartProblem) (executable : String)
  | noVersionText
  deriving DecidableEq, Repr

namespace Failure

def unavailableText (folder detail : String) : String :=
  let message := s!"Dependency tree unavailable for {folder}"
  if detail = "" then message else s!"{message}: {detail}"

def message : Failure → String
  | .sourceUnavailable folder detail => unavailableText folder detail
  | .malformedReport fault _ => fault.message
  | .config fault => fault.message
  | .rejected rejection => rejection.message
  | .receiptFields fault => fault.message
  | .file problem path => problem.message path
  | .linkLoop path => s!"Symlink loop from {Text.quoted path.toString}"
  | .undecodable fault => fault.message
  | .integerTooLong digits => Json.integerTooLongMessage digits
  | .integerNotShown => Json.integerNotShownMessage
  | .scalar problem => problem.message
  | .nestedTooDeeply => "maximum recursion depth exceeded"
  | .unhashable kind => s!"unhashable type: {Text.quoted kind}"
  | .notStarted problem executable => problem.message executable
  | .noVersionText => "'NoneType' object has no attribute 'strip'"

/-- Whether a failure is one of resolving, which the caller of a resolution may bear with. -/
def isOfResolving : Failure → Bool
  | .sourceUnavailable .. | .malformedReport .. => true
  | _ => false

/-- The failure that a report's fault amounts to. An integer past all limits is refused by the
number reader, before there is anything to say about the report. -/
def ofReportFault (raw : String) : ReportFault → Failure
  | .notJson (.integerTooLong digits) => .integerTooLong digits
  | fault => .malformedReport fault raw

def ofResolveProblem (path : Path) : FileSystem.ResolveProblem → Failure
  | .loop reached => .linkLoop reached
  | .nulCharacter => .file .nulCharacter path.toString

end Failure

/-- The first characters of a text, with a mark behind them if there are more. A negative limit
counts the characters that are left out at the end. -/
def excerpt (raw : String) (limit : Int) : String :=
  let length := raw.length
  if (length : Int) ≤ limit then raw
  else
    let kept := if limit < 0 then (length + limit).toNat else limit.toNat
    String.ofList (raw.toList.take kept) ++ "…"

def excerptLimit : Nat := 200

def Failure.reportExcerpt? : Failure → Option String
  | .malformedReport _ raw => some (excerpt raw excerptLimit)
  | _ => none

end ProductionClosure

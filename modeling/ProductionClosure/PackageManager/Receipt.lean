import ProductionClosure.Json.Printer
import ProductionClosure.Schema.Scalar
import ProductionClosure.Text.Quoted

/-!
What came of an action. A receipt of a failure may still carry output: package managers often exit
with a complaint after printing a complete tree.
-/

namespace ProductionClosure

structure Receipt where
  adapter : String
  actionId : String
  ok : Bool := true
  output : String := ""
  error : Option String := none
  metadata : Json.Members := []
  deriving Inhabited

namespace Receipt

def status (receipt : Receipt) : String := if receipt.ok then "ok" else "failed"

def statusOf : Json → Except Schema.Problem Bool
  | .string "ok" => .ok true
  | .string "failed" => .ok false
  | _ => .error .notStatus

def duration (value : Json) : Except Schema.Problem Unit := Schema.integerCheck value.shape

/-- The fields of a receipt. Its times are checked and not kept. -/
def check (members : Json.Members) : Schema.Checked Receipt :=
  (fun adapter actionId ok _ _ _ output error metadata =>
      ⟨adapter, actionId, ok, output, error, metadata⟩)
    <$> Schema.requiredField members "adapter" Schema.text
    <*> Schema.requiredField members "action_id" Schema.text
    <*> Schema.optionalField members "status" statusOf true
    <*> Schema.optionalField members "started_at" Schema.text ""
    <*> Schema.optionalField members "ended_at" Schema.text ""
    <*> Schema.optionalField members "duration_ms" duration ()
    <*> Schema.optionalField members "output" Schema.text ""
    <*> Schema.optionalField members "error" Schema.optionalText none
    <*> Schema.optionalField members "metadata" Schema.dictionary []

def ofJson : Json → Except Schema.Rejection Receipt
  | .object members => (check members).toExcept "Receipt"
  | _ => .error (Schema.notRecord "Receipt")

inductive FieldFault where
  | repeated (maker noun field : String)
  | missing (maker : String) (fields : List String)
  | rejected (rejection : Schema.Rejection)
  deriving DecidableEq, Repr

def enumerated (names : List String) : String :=
  match names.map Text.quoted with
  | [first, second] => s!"{first} and {second}"
  | quoted =>
    match quoted.reverse with
    | last :: rest@(_ :: _) => String.intercalate ", " rest.reverse ++ ", and " ++ last
    | names => String.join names

def FieldFault.message : FieldFault → String
  | .repeated maker noun field => s!"{maker}() got multiple values for {noun} {Text.quoted field}"
  | .missing maker fields =>
    let noun := if fields.length = 1 then "argument" else "arguments"
    s!"{maker}() missing {fields.length} required positional {noun}: {enumerated fields}"
  | .rejected rejection => rejection.message

/-- The fields that a receipt cannot do without; that of a failure has to say what went wrong. -/
def neededFields (ok : Bool) : List String :=
  ["adapter", "action_id"] ++ if ok then [] else ["error"]

def ofFields (ok : Bool) (fields : Json.Members) : Except FieldFault Receipt :=
  let maker := if ok then "Receipt.success" else "Receipt.failure"
  let given (field : String) : Bool := (fields.get? field).isSome
  let missing := (neededFields ok).filter fun field => !given field
  if given "cls" then .error (.repeated maker "argument" "cls")
  else if !missing.isEmpty then .error (.missing maker missing)
  else if given "status" then
    .error (.repeated "prodeps.core.models.action.Receipt" "keyword argument" "status")
  else
    (ofJson (.object (fields.set "status" (.string (if ok then "ok" else "failed"))))).mapError
      .rejected

def toMembers (receipt : Receipt) : Json.Members :=
  [("adapter", .string receipt.adapter), ("action_id", .string receipt.actionId),
    ("status", .string receipt.status), ("ok", .bool receipt.ok), ("failed", .bool !receipt.ok),
    ("output", .string receipt.output), ("error", Json.ofString? receipt.error),
    ("metadata", .object receipt.metadata)]

end Receipt

end ProductionClosure

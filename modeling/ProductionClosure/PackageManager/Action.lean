import ProductionClosure.Json.Printer
import ProductionClosure.Process
import ProductionClosure.Schema.Scalar

/-!
What the package manager is asked to do, where, and with which variables. The parameters of an
action are open: what they have to hold is for the operation to say.
-/

namespace ProductionClosure

structure Action where
  id : String
  name : String
  adapter : String
  params : Json.Members
  deriving Inhabited

namespace Action

def check (members : Json.Members) : Schema.Checked Action :=
  Action.mk
    <$> Schema.requiredField members "id" Schema.text
    <*> Schema.optionalField members "name" Schema.text ""
    <*> Schema.requiredField members "adapter" Schema.text
    <*> Schema.optionalField members "params" Schema.dictionary []

def ofJson : Json → Except Schema.Rejection Action
  | .object members => (check members).toExcept "Action"
  | _ => .error (Schema.notRecord "Action")

def toMembers (action : Action) : Json.Members :=
  [("id", .string action.id), ("name", .string action.name), ("adapter", .string action.adapter),
    ("params", .object action.params)]

end Action

structure ActionContext where
  action : Action
  folder : String := "."
  environment : Environment := []
  deriving Inhabited

namespace ActionContext

/-- One variable; its defect is shown below the key of the environment. -/
def checkVariable (name : String) (value : Json) : Schema.Checked (String × String) :=
  match Schema.text value with
  | .ok text => .valid (name, text)
  | .error problem => .invalid [⟨["env", name], problem⟩]

def checkVariables : Json.Members → Schema.Checked Environment
  | [] => .valid []
  | (name, value) :: rest =>
    Schema.Checked.seq (Schema.Checked.map List.cons (checkVariable name value))
      (checkVariables rest)

def checkEnvironment (members : Json.Members) : Schema.Checked Environment :=
  match members.get? "env" with
  | none => .valid []
  | some (.object values) => checkVariables values
  | some _ => .invalid [⟨["env"], .notDictionary⟩]

def ofMembers (action : Action) (members : Json.Members) : Except Schema.Rejection ActionContext :=
  Schema.Checked.toExcept "ExecutionContext" <|
    (fun folder environment => ⟨action, folder, environment⟩)
      <$> Schema.optionalField members "working_dir" Schema.text "."
      <*> checkEnvironment members

end ActionContext

end ProductionClosure

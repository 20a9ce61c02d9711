import ProductionClosure.Text.LowerCase
import ProductionClosure.Yaml.Base64
import ProductionClosure.Yaml.Graph.Basic
import ProductionClosure.Yaml.Number.Reading
import ProductionClosure.Yaml.Value

/-!
The values of scalars. The tag of a node says what its text is to spell. A mapping may stand for a
scalar: the one under its key `=`.
-/

namespace ProductionClosure.Yaml.Graph

/-- The text of a scalar, or of the one that a mapping stands for, within so many steps. -/
def scalarTextWithin (steps : Nat) (g : Graph) (id : NodeId) : Reading String :=
  match steps with
  | 0 => .error .tooDeep
  | steps + 1 =>
    match g.content id with
    | .scalar text => .ok text
    | .sequence _ => .error .malformed
    | .mapping pairs =>
      match pairs.find? fun (key, _) => g.tag key = .value with
      | some (_, value) => g.scalarTextWithin steps value
      | none => .error .malformed

/-- How many mappings in a row may stand for a scalar. Where they do so in a circle, any number of
them is too many. -/
def maxScalarSteps : Nat := 970

def scalarText (g : Graph) (id : NodeId) : Reading String := g.scalarTextWithin maxScalarSteps id

def boolOf (text : String) : Except ScalarProblem Bool :=
  let word := Text.lowerCase text
  if ["yes", "true", "on"].contains word then .ok true
  else if ["no", "false", "off"].contains word then .ok false
  else .error (.notBool word)

def floatOf (id : NodeId) (text : String) : Except ScalarProblem Value :=
  (readDouble text).map fun
    | none => .nan none
    | some x => if x.isNaN then .nan (some id) else .float x

def spelled {α : Type} (g : Graph) (id : NodeId) (value : α → Value)
    (read : String → Except ScalarProblem α) : Reading Value := do
  ((read (← g.scalarText id)).map value).mapError .scalar

/-- The value of a node that is no collection. A timestamp needs a text of its own. -/
def scalar (g : Graph) (id : NodeId) : Reading Value :=
  match g.tag id with
  | .null => g.spelled id (fun _ => .null) .ok
  | .bool => g.spelled id .bool boolOf
  | .int => g.spelled id .int readInteger
  | .float => g.spelled id (fun value => value) (floatOf id)
  | .string => g.spelled id .string .ok
  | .timestamp =>
    g.spelled id .timestamp fun text =>
      if g.isMapping id then .error .notText else Timestamp.read text
  | .binary => do
    match decodeBase64 (← g.scalarText id) with
    | some octets => .ok (.bytes octets)
    | none => .error .malformed
  | _ => .error .malformed

end ProductionClosure.Yaml.Graph

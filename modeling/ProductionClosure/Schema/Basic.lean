import ProductionClosure.Json.Basic

/-!
Checking the fields of a record. A check yields the value or all the defects found, each with the
way to it; checks of several fields are combined so that no defect hides another one.
-/

namespace ProductionClosure.Schema

inductive Problem where
  | notString
  | notUnicode
  | notBool
  | unreadableBool
  | notDictionary
  | notInteger
  | fractionalInteger
  | unreadableInteger
  | integerTooLarge
  | notFinite
  | notStatus
  | missing
  | extraKey
  | keyNotString
  | notRecord (model : String)
  deriving DecidableEq, Repr

def Problem.wording : Problem → String × String
  | .notString => ("Input should be a valid string", "string_type")
  | .notUnicode =>
    ("Input should be a valid string, unable to parse raw data as a unicode string",
      "string_unicode")
  | .notBool => ("Input should be a valid boolean", "bool_type")
  | .unreadableBool =>
    ("Input should be a valid boolean, unable to interpret input", "bool_parsing")
  | .notDictionary => ("Input should be a valid dictionary", "dict_type")
  | .notInteger => ("Input should be a valid integer", "int_type")
  | .fractionalInteger =>
    ("Input should be a valid integer, got a number with a fractional part", "int_from_float")
  | .unreadableInteger =>
    ("Input should be a valid integer, unable to parse string as an integer", "int_parsing")
  | .integerTooLarge =>
    ("Unable to parse input string as an integer, exceeded maximum size", "int_parsing_size")
  | .notFinite => ("Input should be a finite number", "finite_number")
  | .notStatus => ("Input should be 'ok' or 'failed'", "literal_error")
  | .missing => ("Field required", "missing")
  | .extraKey => ("Extra inputs are not permitted", "extra_forbidden")
  | .keyNotString => ("Keys should be strings", "invalid_key")
  | .notRecord model =>
    (s!"Input should be a valid dictionary or instance of {model}", "model_type")

/-- A problem and the keys that lead to it from the record. -/
structure Defect where
  location : List String
  problem : Problem
  deriving DecidableEq, Repr

/-- A key as it is shown on the way to a defect: in back quotes when it holds a point. -/
def shownKey (key : String) : String :=
  if key.contains '.' then "\x60" ++ key ++ "\x60" else key

def Defect.message (defect : Defect) : String :=
  let (sentence, kind) := defect.problem.wording
  let line := s!"  {sentence} [type={kind}]"
  if defect.location.isEmpty then line
  else String.intercalate "." (defect.location.map shownKey) ++ "\n" ++ line

structure Rejection where
  model : String
  defects : List Defect
  deriving DecidableEq, Repr

def Rejection.message (rejection : Rejection) : String :=
  let count := rejection.defects.length
  let noun := if count = 1 then "error" else "errors"
  let heading := s!"{count} validation {noun} for {rejection.model}"
  String.intercalate "\n" (heading :: rejection.defects.map Defect.message)

/-- A checked value, or everything that is wrong with it. -/
inductive Checked (α : Type) where
  | valid (value : α)
  | invalid (defects : List Defect)

namespace Checked

def map {α β : Type} (f : α → β) : Checked α → Checked β
  | .valid value => .valid (f value)
  | .invalid defects => .invalid defects

/-- Applies one checked value to another, with the defects of both in order. -/
def seq {α β : Type} : Checked (α → β) → Checked α → Checked β
  | .valid f, .valid value => .valid (f value)
  | .valid _, .invalid defects => .invalid defects
  | .invalid defects, .valid _ => .invalid defects
  | .invalid first, .invalid second => .invalid (first ++ second)

instance : Functor Checked := ⟨fun f c => map f c, fun a c => map (fun _ => a) c⟩

instance : Applicative Checked where
  pure := .valid
  seq f c := seq f (c ())

def toExcept {α : Type} (model : String) : Checked α → Except Rejection α
  | .valid value => .ok value
  | .invalid defects => .error ⟨model, defects⟩

@[simp] theorem seq_eq_valid {α β : Type} (f : Checked (α → β)) (c : Checked α) (b : β) :
    seq f c = .valid b ↔ ∃ g a, f = .valid g ∧ c = .valid a ∧ g a = b := by
  cases f <;> cases c <;> simp [seq]

@[simp] theorem map_eq_valid {α β : Type} (f : α → β) (c : Checked α) (b : β) :
    map f c = .valid b ↔ ∃ a, c = .valid a ∧ f a = b := by
  cases c <;> simp [map]

end Checked

def notRecord (model : String) : Rejection := ⟨model, [⟨[], .notRecord model⟩]⟩

end ProductionClosure.Schema

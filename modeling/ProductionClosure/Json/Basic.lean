import ProductionClosure.Number.Binary64

/-!
JSON values. An object is its members in the order of their first mention, each key once; a number
without point or exponent is an integer of any size, every other one a double.
-/

namespace ProductionClosure

inductive Json where
  | null
  | bool (value : Bool)
  | int (value : Int)
  | float (value : Binary64)
  | string (value : String)
  | array (items : List Json)
  | object (members : List (String × Json))
  deriving Inhabited

namespace Json

abbrev Members := List (String × Json)

def kindName : Json → String
  | .null => "NoneType"
  | .bool _ => "bool"
  | .int _ => "int"
  | .float _ => "float"
  | .string _ => "str"
  | .array _ => "list"
  | .object _ => "dict"

/-- Sets a member: a known key keeps its place and takes the new value, a new key goes last. -/
def Members.set (members : Members) (key : String) (value : Json) : Members :=
  match members with
  | [] => [(key, value)]
  | (k, v) :: rest => if k = key then (k, value) :: rest else (k, v) :: Members.set rest key value

def Members.get? (members : Members) (key : String) : Option Json :=
  members.lookup key

def get? (value : Json) (key : String) : Option Json :=
  match value with
  | .object members => Members.get? members key
  | _ => none

def string? : Json → Option String
  | .string s => some s
  | _ => none

def array? : Json → Option (List Json)
  | .array items => some items
  | _ => none

def members? : Json → Option Members
  | .object members => some members
  | _ => none

@[simp] theorem Members.get?_set_self (members : Members) (key : String) (value : Json) :
    (members.set key value).get? key = some value := by
  induction members with
  | nil => simp [Members.set, Members.get?]
  | cons m rest ih =>
    obtain ⟨k, v⟩ := m
    rw [Members.set]
    split
    · next h => simp [Members.get?, h]
    · next h =>
      have : (key == k) = false := by simpa using fun e => h e.symm
      rw [Members.get?, List.lookup_cons, this]
      exact ih

end Json

end ProductionClosure

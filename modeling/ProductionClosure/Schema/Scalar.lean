import ProductionClosure.Schema.IntegerText
import ProductionClosure.Text.Utf8

/-!
Reading single fields. Values of every notation are first brought to the few shapes that matter to
a field; strings stand for booleans and integers where they spell one.
-/

namespace ProductionClosure.Schema

inductive Shape where
  | null
  | bool (value : Bool)
  | int (value : Int)
  | float (value : Binary64)
  | string (value : String)
  | bytes (value : List UInt8)
  | other

def textOf : Shape → Except Problem String
  | .string s => .ok s
  | .bytes octets => (Text.decodeUtf8 octets).mapError fun _ => .notUnicode
  | _ => .error .notString

def optionalTextOf : Shape → Except Problem (Option String)
  | .null => .ok none
  | shape => (textOf shape).map some

def boolWords : List (String × Bool) :=
  [("0", false), ("off", false), ("f", false), ("false", false), ("n", false), ("no", false),
    ("1", true), ("on", true), ("t", true), ("true", true), ("y", true), ("yes", true)]

def fitsWord (n : Int) : Bool := -0x8000000000000000 ≤ n && n < 0x8000000000000000

def boolOfWord (word : String) : Except Problem Bool :=
  match boolWords.lookup word.toLower with
  | some b => .ok b
  | none => .error .unreadableBool

def isWhole (x : Binary64) : Bool :=
  0 ≤ x.exponent || x.significand % Binary64.twoTo (-x.exponent).toNat = 0

/-- Whether a double is so small that its whole part has less than sixty-four bits with sign. -/
def isShort (x : Binary64) : Bool := x.exponent + (Nat.log2 x.significand : Int) < 63

/-- Numbers other than zero and one are no booleans; the whole ones that fit into sixty-four bits
are at least looked at. -/
def boolOf : Shape → Except Problem Bool
  | .bool b => .ok b
  | .int n =>
    if n = 0 then .ok false
    else if n = 1 then .ok true
    else if fitsWord n then .error .unreadableBool
    else .error .notBool
  | .float x =>
    if x.isZero then .ok false
    else if x.isOne then .ok true
    else if !x.isNaN && !x.isInfinite && isWhole x && isShort x then .error .unreadableBool
    else .error .notBool
  | .string s => boolOfWord s
  | .bytes octets =>
    match Text.decodeUtf8 octets with
    | .ok s => boolOfWord s
    | .error _ => .error .unreadableBool
  | _ => .error .notBool

def integerCheck : Shape → Except Problem Unit
  | .bool _ | .int _ => .ok ()
  | .float x =>
    if x.isNaN || x.isInfinite then .error .notFinite
    else if !isWhole x then .error .fractionalInteger
    else if isShort x then .ok ()
    else .error .integerTooLarge
  | .string s => integerTextCheck s
  | _ => .error .notInteger

end ProductionClosure.Schema

namespace ProductionClosure

def Json.shape : Json → Schema.Shape
  | .null => .null
  | .bool b => .bool b
  | .int n => .int n
  | .float x => .float x
  | .string s => .string s
  | .array _ => .other
  | .object _ => .other

namespace Schema

def atKey {α : Type} (key : String) (result : Except Problem α) : Checked α :=
  match result with
  | .ok value => .valid value
  | .error problem => .invalid [⟨[key], problem⟩]

def optionalField {α : Type} (members : Json.Members) (key : String)
    (check : Json → Except Problem α) (default : α) : Checked α :=
  match members.get? key with
  | none => .valid default
  | some value => atKey key (check value)

def requiredField {α : Type} (members : Json.Members) (key : String)
    (check : Json → Except Problem α) : Checked α :=
  match members.get? key with
  | none => .invalid [⟨[key], .missing⟩]
  | some value => atKey key (check value)

/-- A field that may be given under either of two keys; the first one wins when both are there. -/
def aliasedField {α : Type} (members : Json.Members) (leading name : String)
    (check : Json → Except Problem α) (default : α) : Checked α :=
  if (members.get? leading).isSome then optionalField members leading check default
  else optionalField members name check default

def text (value : Json) : Except Problem String := textOf value.shape

def optionalText (value : Json) : Except Problem (Option String) := optionalTextOf value.shape

def flag (value : Json) : Except Problem Bool := boolOf value.shape

def dictionary : Json → Except Problem Json.Members
  | .object members => .ok members
  | _ => .error .notDictionary

/-- A dictionary; null stands for the empty one. -/
def dictionaryOrNull : Json → Except Problem Json.Members
  | .null => .ok []
  | value => dictionary value

end Schema

end ProductionClosure

import ProductionClosure.Text.Quoted
import ProductionClosure.Yaml.Graph.Basic

/-!
The values of YAML documents. A collection is known by its node, because it may stand in itself;
what is in it is kept beside the values. Scalars are values by what they say, but for one: a number
that is no number equals only itself.
-/

namespace ProductionClosure.Yaml

inductive Value where
  | null
  | bool (value : Bool)
  | int (value : Int)
  | float (value : Binary64)
  /-- No number: the one that its word means, or the one that a node computes. -/
  | nan (source : Option NodeId)
  | string (value : String)
  | bytes (value : List UInt8)
  | timestamp (value : Timestamp)
  | list (node : NodeId)
  | set (node : NodeId)
  | mapping (node : NodeId)
  deriving DecidableEq, Repr, Inhabited

inductive Collection where
  | list (items : List Value)
  | pairs (entries : List (Value × Value))
  | set (members : List Value)
  | mapping (entries : List (Value × Value))
  deriving DecidableEq, Repr

def Collection.isEmpty : Collection → Bool
  | .list items => items.isEmpty
  | .pairs entries => entries.isEmpty
  | .set members => members.isEmpty
  | .mapping entries => entries.isEmpty

namespace Value

def kindName : Value → String
  | .null => "NoneType"
  | .bool _ => "bool"
  | .int _ => "int"
  | .float _ | .nan _ => "float"
  | .string _ => "str"
  | .bytes _ => "bytes"
  | .timestamp stamp => if stamp.time.isSome then "datetime" else "date"
  | .list _ => "list"
  | .set _ => "set"
  | .mapping _ => "dict"

def collection? : Value → Option NodeId
  | .list node | .set node | .mapping node => some node
  | _ => none

/-! ### Keys -/

def isScalar (value : Value) : Bool := value.collection?.isNone

private def number? : Value → Option (Bool × Nat × Nat)
  | .bool b => some (false, if b then 1 else 0, 1)
  | .int n => some (decide (n < 0), n.natAbs, 1)
  | .float x =>
    if x.isNaN || x.isInfinite then none
    else
      let (num, den) := x.ratio
      some (x.isNegative && num ≠ 0, num, den)
  | _ => none

/-- Whether two keys are one: numbers by their value, times by their instant, other scalars by kind
and content. -/
def sameKey (a b : Value) : Bool :=
  match number? a, number? b with
  | some (negA, numA, denA), some (negB, numB, denB) => negA = negB && numA * denB = numB * denA
  | _, _ =>
    match a, b with
    | .timestamp s, .timestamp t => s.same t
    | a, b => a = b

/-- Sets a pair: a known key keeps its place and its spelling and takes the new value. -/
def setPair (pairs : List (Value × Value)) (key value : Value) : List (Value × Value) :=
  match pairs with
  | [] => [(key, value)]
  | (k, v) :: rest =>
    if sameKey k key then (k, value) :: rest else (k, v) :: setPair rest key value

/-! ### Showing keys -/

private def shownOctet (quote : Char) (octet : UInt8) : String :=
  let c := Char.ofNat octet.toNat
  if c = quote || c = '\\' then String.ofList ['\\', c]
  else if c = '\t' then "\\t"
  else if c = '\n' then "\\n"
  else if c = '\r' then "\\r"
  else if 0x20 ≤ octet ∧ octet < 0x7f then String.singleton c
  else "\\x" ++ Text.hexText 2 octet.toNat

private def shownBytes (octets : List UInt8) : String :=
  let quote := Text.quoteFor (octets.map fun octet => Char.ofNat octet.toNat)
  "b" ++ String.singleton quote ++ String.join (octets.map (shownOctet quote))
    ++ String.singleton quote

/-- An integer in decimal, unless it has too many digits to be written out. -/
private def shownInteger (n : Int) : String :=
  if n.natAbs < Binary64.tenTo Json.maxIntegerDigits then toString n
  else "<unprintable int object>"

def shownKey : Value → String
  | .null => "None"
  | .bool b => if b then "1" else "0"
  | .int n => shownInteger n
  | .float x => x.toText
  | .nan _ => Binary64.nan.toText
  | .string s => s
  | .bytes octets => shownBytes octets
  | .timestamp stamp => stamp.shown
  | .list _ | .set _ | .mapping _ => ""

end Value

end ProductionClosure.Yaml

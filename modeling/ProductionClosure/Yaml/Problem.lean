import ProductionClosure.Json.Decoder
import ProductionClosure.Text.Quoted

/-!
What can be wrong with a YAML text: either it is no document at all, or it is nested too deeply, or
a scalar in it claims to be a value that it does not spell.
-/

namespace ProductionClosure.Yaml

inductive ScalarProblem where
  | noSuchCharacter
  | hugeCharacter
  | integerTooLong (digits : Nat)
  | notInteger (base : Nat) (text : String)
  | notNumber (text : String)
  | powerTooLarge
  | notBool (text : String)
  | noDigits
  | notTimestamp
  | notText
  | yearOutOfRange (year : Nat)
  | monthOutOfRange
  | dayOutOfRange
  | hourOutOfRange
  | minuteOutOfRange
  | secondOutOfRange
  | offsetOutOfRange (shown : String)
  deriving DecidableEq, Repr

def shownLength : Nat := 200

def ScalarProblem.message : ScalarProblem → String
  | .noSuchCharacter => "chr() arg not in range(0x110000)"
  | .hugeCharacter => "Python int too large to convert to C int"
  | .integerTooLong digits => Json.integerTooLongMessage digits
  | .notInteger base text =>
    s!"invalid literal for int() with base {base}: {Text.quotedStart shownLength text}"
  | .notNumber text => s!"could not convert string to float: {Text.quoted text}"
  | .powerTooLarge => "int too large to convert to float"
  | .notBool text => Text.quoted text
  | .noDigits => "string index out of range"
  | .notTimestamp => "'NoneType' object has no attribute 'groupdict'"
  | .notText => "expected string or bytes-like object, got 'list'"
  | .yearOutOfRange year => s!"year {year} is out of range"
  | .monthOutOfRange => "month must be in 1..12"
  | .dayOutOfRange => "day is out of range for month"
  | .hourOutOfRange => "hour must be in 0..23"
  | .minuteOutOfRange => "minute must be in 0..59"
  | .secondOutOfRange => "second must be in 0..59"
  | .offsetOutOfRange shown =>
    "offset must be a timedelta strictly between -timedelta(hours=24) and "
      ++ s!"timedelta(hours=24), not {shown}."

inductive Problem where
  | malformed
  | tooDeep
  | scalar (problem : ScalarProblem)
  deriving DecidableEq, Repr

abbrev Reading (α : Type) := Except Problem α

end ProductionClosure.Yaml

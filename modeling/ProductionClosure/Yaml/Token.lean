import ProductionClosure.Yaml.Problem

/-!
The tokens of a YAML text. Indentation has become brackets, and keys written without a mark of their
own have one. Text that cannot become a token because a number in it is out of range ends the
tokens: it is a problem only for a reader that gets there.
-/

namespace ProductionClosure.Yaml

inductive Directive where
  | version (major minor : Nat)
  | tag (handle value : String)
  | other
  deriving DecidableEq, Repr

inductive Token where
  | directive (directive : Directive)
  | documentStart
  | documentEnd
  | blockSequenceStart
  | blockMappingStart
  | blockEnd
  | flowSequenceStart
  | flowSequenceEnd
  | flowMappingStart
  | flowMappingEnd
  | blockEntry
  | flowEntry
  | key
  | value
  | alias (name : String)
  | anchor (name : String)
  | tag (handle : Option String) (suffix : String)
  | scalar (text : String) (plain : Bool)
  | unreadable (problem : ScalarProblem)
  deriving DecidableEq, Repr

end ProductionClosure.Yaml

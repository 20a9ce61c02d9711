import ProductionClosure.Log.Level

/-!
Log records: a level, the name of the part of the program that speaks, and a message.
-/

namespace ProductionClosure.Log

structure Record where
  level : Level
  logger : String
  message : String
  deriving DecidableEq, Repr

end ProductionClosure.Log

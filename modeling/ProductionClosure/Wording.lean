import ProductionClosure.CommandLine.Options

/-!
Texts that the program passes on as they come, from the reader of command lines and from that of
settings files. What they say is not decided here, so it is a part of the world around a run.
-/

namespace ProductionClosure

structure Wording where
  /-- The help, by the names of the command that it is for. -/
  help : List String → String := fun _ => ""
  /-- What is said of a command line that has a problem. -/
  usage : List String → CommandLine.UsageProblem → String := fun _ _ => ""
  /-- What is said of a text that is not YAML. -/
  malformedYaml : String → String := fun _ => ""

end ProductionClosure

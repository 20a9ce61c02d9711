import ProductionClosure.Text.Pieces

/-!
Reading options off a command line. Long options take a value behind `=` or as the next argument;
short ones can be written together behind one dash, and a value may follow the last of them at once.
Two dashes alone end the options.
-/

namespace ProductionClosure.CommandLine

inductive UsageProblem where
  | noSuchOption (name : String)
  | missingValue (name : String)
  | unexpectedValue (name : String)
  | missingCommand
  | noSuchCommand (name : String)
  | extraArguments (arguments : List String)
  | noSuchPath (path : String)
  | notFolder (path : String)
  | unreadable (path : String)
  deriving DecidableEq, Repr

variable {σ : Type}

inductive Effect (σ : Type) where
  | flag (set : σ → σ)
  | value (set : String → σ → σ)

structure OptionSpec (σ : Type) where
  names : List String
  effect : Effect σ

def effectOf? (specs : List (OptionSpec σ)) (name : String) : Option (Effect σ) :=
  (specs.find? fun spec => spec.names.contains name).map OptionSpec.effect

/-- What one argument with options asks for: a change, or a value first. -/
inductive Asked (σ : Type) where
  | change (set : σ → σ)
  | value (name : String) (set : String → σ → σ)

def readCluster (specs : List (OptionSpec σ)) (set : σ → σ) :
    List Char → Except UsageProblem (Asked σ)
  | [] => .ok (.change set)
  | c :: rest =>
    let name := String.ofList ['-', c]
    match effectOf? specs name with
    | none => .error (.noSuchOption name)
    | some (.flag change) => readCluster specs (change ∘ set) rest
    | some (.value change) =>
      if rest.isEmpty then .ok (.value name fun value => change value ∘ set)
      else .ok (.change (change (String.ofList rest) ∘ set))

def readOption (specs : List (OptionSpec σ)) (cs : List Char) : Except UsageProblem (Asked σ) :=
  match cs with
  | '-' :: '-' :: _ =>
    let name := String.ofList (cs.takeWhile (· ≠ '='))
    match effectOf? specs name, cs.dropWhile (· ≠ '=') with
    | none, _ => .error (.noSuchOption name)
    | some (.flag change), [] => .ok (.change change)
    | some (.flag _), _ :: _ => .error (.unexpectedValue name)
    | some (.value change), [] => .ok (.value name change)
    | some (.value change), _ :: value => .ok (.change (change (String.ofList value)))
  | cs => readCluster specs id (cs.drop 1)

def isOption (cs : List Char) : Bool := cs.head? = some '-' && 1 < cs.length

/-- Reads the options off some arguments and yields the settings with the arguments left. Unless
options may stand between other arguments, the first argument without options ends them. -/
def readArguments (specs : List (OptionSpec σ)) (anywhere : Bool) (settings : σ) :
    List String → Except UsageProblem (σ × List String)
  | [] => .ok (settings, [])
  | argument :: rest =>
    if argument = "--" then .ok (settings, rest)
    else if isOption argument.toList then
      match readOption specs argument.toList with
      | .error problem => .error problem
      | .ok (.change set) => readArguments specs anywhere (set settings) rest
      | .ok (.value name set) =>
        match rest with
        | [] => .error (.missingValue name)
        | value :: rest => readArguments specs anywhere (set value settings) rest
    else if anywhere then
      match readArguments specs anywhere settings rest with
      | .error problem => .error problem
      | .ok (settings, others) => .ok (settings, argument :: others)
    else .ok (settings, argument :: rest)

end ProductionClosure.CommandLine

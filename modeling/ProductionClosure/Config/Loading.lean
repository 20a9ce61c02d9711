import ProductionClosure.Config.Basic
import ProductionClosure.Run
import ProductionClosure.Text.Newline
import ProductionClosure.Yaml.Document

/-!
Finding and loading the settings file. It is looked for in a folder and in those above it; its
record of settings stands at the top level or under one key. A repository root in it is seen from
the folder of the file.
-/

namespace ProductionClosure

def FileSystem.answer {α : Type} (question : Path → Except FileProblem α) (path : Path) :
    Except Failure α :=
  (question path).mapError fun problem => .file problem path.toString

def FileSystem.resolved (files : FileSystem) (path : Path) : Except Failure Path :=
  (files.resolve path).mapError (Failure.ofResolveProblem path)

namespace Config

def fileName : String := "prodeps.yml"

/-- How many folders are searched, the first one included. -/
def searchDepth : Nat := 20

def findUpward (files : FileSystem) : Nat → Path → Except Failure (Option Path)
  | 0, _ => .ok none
  | depth + 1, folder => do
    let candidate := folder / Path.ofString fileName
    if ← FileSystem.answer files.isFile? candidate then pure (some candidate)
    else if folder.parent = folder then pure none
    else findUpward files depth folder.parent

def find (files : FileSystem) (start : Path) : Except Failure (Option Path) := do
  findUpward files searchDepth (← files.resolved start)

def folderOf (files : FileSystem) (path : Path) : Except Failure Path :=
  files.resolved path.parent

/-- The record that a document holds under a key, or the document itself. -/
def recordOf (path : Path) (document : Yaml.Document) :
    Except Fault (List (Yaml.Value × Yaml.Value)) :=
  match document.root with
  | .null => .ok []
  | .mapping node =>
    let pairs := document.pairs (.mapping node)
    match pairs.find? fun pair => Yaml.Value.sameKey pair.1 (.string "prodeps") with
    | none => .ok pairs
    | some (_, .mapping inner) => .ok (document.pairs (.mapping inner))
    | some (_, value) =>
      if document.isEmpty value then .ok [] else .error (.wrappedNotMapping path)
  | value => .error (.notMapping path value.kindName)

/-- The settings in the text of a file, with the repository root as it is written. Given are the
words for a text that is not YAML. -/
def parse (words : String → String) (path : Path) (text : String) : Except Failure Config := do
  let document ← (Yaml.Document.parse text).mapError fun
    | .malformed => .config (.malformed path (words text))
    | .tooDeep => .nestedTooDeeply
    | .scalar problem => .scalar problem
  let pairs ← (recordOf path document).mapError .config
  (ofSettings (Yaml.Value.settings pairs)).mapError fun rejection => .config (.invalid rejection)

/-- The settings with a relative repository root seen from the folder of their file. -/
def anchored (files : FileSystem) (path : Path) (config : Config) : Except Failure Config :=
  match config.givenRoot? with
  | none => .ok config
  | some root =>
    if root.isAbsolute then .ok config
    else do
      let resolved ← files.resolved (path.parent / root)
      pure { config with repoRoot := some resolved.toString }

def textOf (files : FileSystem) (path : Path) : Except Failure String := do
  let octets ← (files.read path.toString).mapError fun problem => .config (.unreadable path problem)
  let text ← (Text.decodeUtf8 octets).mapError .undecodable
  pure (Text.withUnixNewlines text)

def load (words : String → String) (files : FileSystem) (path : Path) : Run Config := do
  let present ← Run.ofExcept (FileSystem.answer files.isFile? path)
  if present then
    Run.report (.configLoading path)
    let config ← Run.ofExcept do
      anchored files path (← parse words path (← textOf files path))
    Run.report (.configLoaded path)
    pure config
  else Run.fail (.config (.missing path))

end Config

end ProductionClosure

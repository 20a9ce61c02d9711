import ProductionClosure.FileSystem.Lookup

/-!
The real path of a path: every link on the way replaced by what it points to, as far as entries
exist, and the rest kept. A link that leads back to itself ends the search, and what is left of the
path is kept behind it.
-/

namespace ProductionClosure.FileSystem

/-- What is known of the links met: the path that one stands for, or that it is being followed. -/
abbrev Followed := List (Path × Option Path)

/-- The parent of a path whose links are resolved; above a relative start there are only `..`. -/
def realParent (path : Path) : Path :=
  match path.segments.getLast? with
  | none => if path.isAbsolute then path else ⟨path.anchor, [".."]⟩
  | some ".." => { path with segments := path.segments ++ [".."] }
  | some _ => path.parent

/-- Puts components behind a path. A leading empty one with more behind it means that the text of
the components starts with a slash, and such a text is a path of its own. -/
def attach (path : Path) (components : List String) : Path :=
  match components with
  | "" :: _ :: _ => Path.ofString (String.intercalate "/" components)
  | _ => { path with segments := path.segments ++ components.filter Path.isSegment }

/-- Follows components from a resolved path. The answer says whether no loop was met. -/
def followReal (fs : FileSystem) :
    Nat → Path → List String → Followed → Except FileProblem (Path × Bool × Followed)
  | 0, path, components, followed => .ok (attach path components, false, followed)
  | _ + 1, path, [], followed => .ok (path, true, followed)
  | fuel + 1, path, name :: rest, followed =>
    if name = "" ∨ name = "." then followReal fs fuel path rest followed
    else if name = ".." then followReal fs fuel (realParent path) rest followed
    else
      let next : Path := { path with segments := path.segments ++ [name] }
      match fs.linkStatus next.toString with
      | .error .nulCharacter => .error .nulCharacter
      | .ok (.link target) =>
        match followed.lookup next with
        | some (some known) => followReal fs fuel known rest followed
        | some none => .ok (attach next rest, false, followed)
        | none => do
          let components := Text.splitSlash target
          let start := if (Path.ofString target).isAbsolute then ⟨.root, []⟩ else path
          let (reached, settled, followed) ←
            followReal fs fuel start components ((next, none) :: followed)
          if settled then followReal fs fuel reached rest ((next, some reached) :: followed)
          else pure (attach reached rest, false, followed)
      | _ => followReal fs fuel next rest followed

/-- A bound on the steps of a search: every link is followed once, by its absolute and by its
relative name. -/
def realPathFuel (fs : FileSystem) (path : String) : Nat :=
  fs.entries.foldl (fun bound entry =>
    match entry.2 with
    | .link target => bound + 2 * (target.length + 2)
    | _ => bound) (path.length + 2)

def absolute (fs : FileSystem) (path : Path) : Path := Path.ofString fs.workingFolder / path

def absoluteText (fs : FileSystem) (path : Path) : Path := (fs.absolute path).normalized

def realPath (fs : FileSystem) (path : Path) : Except FileProblem Path := do
  let text := path.toString
  let start : Path := if path.isAbsolute then ⟨.root, []⟩ else ⟨.relative, []⟩
  let (reached, _, _) ← followReal fs (fs.realPathFuel text) start (Text.splitSlash text) []
  pure (fs.absoluteText reached)

/-- The real path of a path that no loop of links may lead through. -/
inductive ResolveProblem where
  | loop (path : Path)
  | nulCharacter
  deriving DecidableEq, Repr

def resolve (fs : FileSystem) (path : Path) : Except ResolveProblem Path :=
  match fs.realPath path with
  | .error _ => .error .nulCharacter
  | .ok real =>
    match fs.status real.toString with
    | .error .tooManyLinks => .error (.loop real)
    | _ => .ok real

end ProductionClosure.FileSystem

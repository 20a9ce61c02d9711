import ProductionClosure.Config.Loading
import ProductionClosure.StorePath

/-!
Hoisted links. A package in the store may also be linked at the top of the workspace; where that
link exists it stands for the store path, whichever version of the package it leads to. The disk is
only asked, never changed.
-/

namespace ProductionClosure

inductive Placement where
  /-- The path leads to no package in the store. -/
  | outside
  /-- The package is linked at the top of the workspace. -/
  | linked (link : Path)
  /-- The package of this name is not linked. -/
  | unlinked (name : List String)
  deriving DecidableEq, Repr

def Placement.resolve (path : String) : Placement → String
  | .linked link => link.toString
  | .outside | .unlinked _ => path

def linkRoot (workspace : Path) (layout : StoreLayout) : Path :=
  workspace / Path.ofString layout.linkFolder

def linkOf (root : Path) (name : List String) : Path :=
  name.foldl (fun path segment => path / Path.ofString segment) root

def placement (files : FileSystem) (workspace : Path) (layout : StoreLayout) (path : String) :
    Except Failure Placement :=
  match StorePath.packageName? layout path with
  | none => .ok .outside
  | some name => do
    let link := linkOf (linkRoot workspace layout) name
    if ← FileSystem.answer files.exists? link then pure (.linked link) else pure (.unlinked name)

/-- Reports a link that was looked for in vain. -/
def Placement.report : Placement → Run Unit
  | .unlinked name => Run.report (.linkMissing name)
  | .outside | .linked _ => pure ()

def placements (files : FileSystem) (workspace : Path) (layout : StoreLayout) :
    List String → Run (List Placement)
  | [] => pure []
  | path :: rest => do
    let place ← Run.ofExcept (placement files workspace layout path)
    place.report
    let places ← placements files workspace layout rest
    pure (place :: places)

def Placement.isLinked : Placement → Bool
  | .linked _ => true
  | .outside | .unlinked _ => false

/-- Replaces each store path by its link where one exists. -/
def hoist (files : FileSystem) (workspace : Path) (layout : StoreLayout) (paths : List String) :
    Run (List String) := do
  let places ← placements files workspace layout paths
  Run.report (.pathsHoisted (places.countP Placement.isLinked) paths.length
    (linkRoot workspace layout))
  pure (List.zipWith (fun path place => place.resolve path) paths places)

end ProductionClosure

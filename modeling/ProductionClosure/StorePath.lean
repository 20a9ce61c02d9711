import ProductionClosure.Text.Pieces

/-!
Paths into the virtual store. The store keeps a package under
`<link folder>/<marker>/<package id>/<link folder>/<package name>`, with slashes or backslashes;
what is linked at the top of a workspace lies under `<link folder>/<package name>`.
-/

namespace ProductionClosure

structure StoreLayout where
  linkFolder : String := "node_modules"
  marker : String := ".pnpm"
  deriving DecidableEq, Repr, Inhabited

namespace StorePath

def isSeparator (c : Char) : Bool := c = '/' || c = '\\'

/-- The pieces between the separators of either kind, without the empty ones at the end. -/
def segments (path : String) : List String :=
  ((Text.split isSeparator path).reverse.dropWhile (· = "")).reverse

/-- A package name spans one segment or, behind a scope, two; what follows is kept. No segment is
empty, and a scope alone is no name. -/
def isName (name : List String) : Bool :=
  name.all (· ≠ "") &&
    match name with
    | [] => false
    | [single] => !single.startsWith "@"
    | _ => true

/-- The segments behind the first place with the shape of the store, if they are a name. -/
def nameIn? (layout : StoreLayout) : List String → Option (List String)
  | folder :: marker :: package :: inner :: first :: more =>
    if folder = layout.linkFolder ∧ marker = layout.marker ∧ package ≠ "" ∧
        inner = layout.linkFolder then
      if isName (first :: more) then some (first :: more) else none
    else nameIn? layout (marker :: package :: inner :: first :: more)
  | _ => none

def packageName? (layout : StoreLayout) (path : String) : Option (List String) :=
  nameIn? layout (segments path)

end StorePath

end ProductionClosure

import ProductionClosure.Text.Pieces

/-!
Paths as texts, without a look at any disk. A path is an anchor and its named segments: reading one
drops empty and `.` segments and keeps `..`, whose meaning depends on links.
-/

namespace ProductionClosure

/-- Where a path starts. Exactly two leading slashes are an anchor of their own. -/
inductive Anchor where
  | relative
  | root
  | doubleRoot
  deriving DecidableEq, Repr, Inhabited

def Anchor.text : Anchor → String
  | .relative => ""
  | .root => "/"
  | .doubleRoot => "//"

structure Path where
  anchor : Anchor
  segments : List String
  deriving DecidableEq, Repr, Inhabited

namespace Path

/-- A component that names something below the path so far, or its parent. -/
def isSegment (component : String) : Bool := component ≠ "" && component ≠ "."

def anchorOf (cs : List Char) : Anchor :=
  match cs with
  | '/' :: '/' :: '/' :: _ => .root
  | '/' :: '/' :: _ => .doubleRoot
  | '/' :: _ => .root
  | _ => .relative

def ofString (s : String) : Path where
  anchor := anchorOf s.toList
  segments := (Text.splitSlash s).filter isSegment

def isAbsolute (p : Path) : Bool := p.anchor ≠ .relative

def toString (p : Path) : String :=
  if p.anchor = .relative ∧ p.segments = [] then "."
  else p.anchor.text ++ String.intercalate "/" p.segments

instance : ToString Path := ⟨Path.toString⟩

/-- The right path seen from the left one; an absolute right path stays as it is. -/
def join (p q : Path) : Path :=
  if q.isAbsolute then q else { p with segments := p.segments ++ q.segments }

instance : Div Path := ⟨Path.join⟩

/-- The path one segment shorter; a path without segments is its own parent. -/
def parent (p : Path) : Path := { p with segments := p.segments.dropLast }

/-- The segments that lead from `base` to `p`, when `base` is a beginning of `p`. -/
def relativeTo? (p base : Path) : Option Path :=
  if p.anchor = base.anchor ∧ base.segments <+: p.segments then
    some ⟨.relative, p.segments.drop base.segments.length⟩
  else none

/-- Lets `..` cancel the segment before it; at the root it disappears. -/
def collapse (absolute : Bool) (segments : List String) : List String :=
  segments.foldl (fun done segment =>
    if segment = ".." then
      if done.getLast?.all (· = "..") then
        if absolute && done.isEmpty then done else done ++ [".."]
      else done.dropLast
    else done ++ [segment]) []

def normalized (p : Path) : Path :=
  { p with segments := collapse p.isAbsolute p.segments }

end Path

end ProductionClosure

import ProductionClosure.Yaml.Graph.Basic
import ProductionClosure.Yaml.Problem

/-!
Merge keys. A pair whose key is one stands for the pairs of the mapping under it, or of several
mappings; these come before the pairs of the mapping that they are merged into. Merging changes the
graph, so it shows wherever the mapping is reached from.
-/

namespace ProductionClosure.Yaml.Graph

def takeMerge? (g : Graph) (id : NodeId) : Option (NodeId × Graph) :=
  let pairs := g.pairs id
  let isMerge (pair : NodeId × NodeId) : Bool := g.tag pair.1 = .merge
  (pairs.find? isMerge).map fun (_, source) =>
    (source, g.setContent id (.mapping (pairs.eraseP isMerge)))

def mergeCount (g : Graph) : Nat :=
  g.nodes.foldl (fun count node =>
    match node.content with
    | .mapping pairs => count + pairs.countP fun (key, _) => g.tag key = .merge
    | _ => count) 0

/-- The mappings under a merge key: the node itself or all its items. -/
def mergeSources (g : Graph) (source : NodeId) : Reading (List NodeId) :=
  match g.content source with
  | .mapping _ => .ok [source]
  | .sequence items => if items.all g.isMapping then .ok items else .error .malformed
  | .scalar _ => .error .malformed

def nameKey (g : Graph) (pair : NodeId × NodeId) : Graph :=
  if g.tag pair.1 = .value then g.setTag pair.1 .string else g

/-- Replaces merge pairs one by one, `inherited` being what they brought in so far. Of several
mappings under one key the last one comes first. Each call but the first follows upon the removal of
a merge pair, and none is ever put in, so fuel past their number is never exhausted. -/
def mergeInto (fuel : Nat) (id : NodeId) (inherited : List (NodeId × NodeId)) (g : Graph) :
    Reading Graph :=
  match fuel with
  | 0 => .error .malformed
  | fuel + 1 =>
    match g.takeMerge? id with
    | none =>
      let own := g.pairs id
      .ok ((own.foldl nameKey g).setContent id (.mapping (inherited ++ own)))
    | some (source, g) => do
      let (found, g) ← (← g.mergeSources source).foldlM (fun (found, g) part => do
        let g ← mergeInto fuel part [] g
        pure (g.pairs part ++ found, g)) ([], g)
      mergeInto fuel id (inherited ++ found) g

def merge (g : Graph) (id : NodeId) : Reading Graph := g.mergeInto (g.mergeCount + 1) id []

end ProductionClosure.Yaml.Graph

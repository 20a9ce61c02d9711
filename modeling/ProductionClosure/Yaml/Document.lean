import ProductionClosure.Yaml.Graph.Merge
import ProductionClosure.Yaml.Graph.OfTokens
import ProductionClosure.Yaml.Graph.Scalar

/-!
Documents: a value with the collections that it leads to. A node has its value as soon as it is met,
a scalar by its text and a collection by its place. Collections are filled level by level, each
level in the order in which they were met, so the problem that is met first is the one reported.
-/

namespace ProductionClosure.Yaml

structure Document where
  root : Value
  collections : List (NodeId × Collection)

/-- A document under construction. The collections that wait are those met and not yet filled, the
last one first. -/
structure Filling where
  graph : Graph
  met : List NodeId
  waiting : List NodeId
  filled : List (NodeId × Collection)

namespace Filling

def collectionValue? (tag : Tag) (id : NodeId) : Option Value :=
  match tag with
  | .sequence | .orderedPairs | .pairs => some (.list id)
  | .set => some (.set id)
  | .mapping => some (.mapping id)
  | _ => none

/-- Lets a collection wait to be filled, if it is met for the first time. -/
def await (f : Filling) (id : NodeId) : Filling :=
  if f.met.contains id then f else { f with met := id :: f.met, waiting := id :: f.waiting }

def meet (id : NodeId) : StateT Filling Reading Value := do
  let f ← get
  match collectionValue? (f.graph.tag id) id with
  | some value =>
    set (f.await id)
    pure value
  | none => f.graph.scalar id

/-- The pairs of a mapping: each key, which must be a scalar, and then its value. -/
def meetPairs (pairs : List (NodeId × NodeId)) : StateT Filling Reading (List (Value × Value)) :=
  pairs.foldlM (fun done (key, value) => do
    let key ← meet key
    if key.isScalar then pure (Value.setPair done key (← meet value)) else throw .malformed) []

/-- The pair that an item of a list of pairs holds, which must be a mapping with this pair alone. -/
def meetSingle (id : NodeId) : StateT Filling Reading (Value × Value) := do
  match (← get).graph.content id with
  | .mapping [(key, value)] =>
    let key ← meet key
    pure (key, ← meet value)
  | _ => throw .malformed

def meetMapping (id : NodeId) : StateT Filling Reading (List (Value × Value)) := do
  let f ← get
  if f.graph.isMapping id then
    let graph ← f.graph.merge id
    set { f with graph := graph }
    meetPairs (graph.pairs id)
  else throw .malformed

def contents (id : NodeId) : StateT Filling Reading Collection := do
  let g := (← get).graph
  match g.tag id, g.content id with
  | .sequence, .sequence items => .list <$> items.mapM meet
  | .orderedPairs, .sequence items | .pairs, .sequence items => .pairs <$> items.mapM meetSingle
  | .mapping, _ => .mapping <$> meetMapping id
  | .set, _ => (fun pairs => .set (pairs.map (·.1))) <$> meetMapping id
  | _, _ => throw .malformed

def fill (id : NodeId) : StateT Filling Reading Unit := do
  let contents ← contents id
  modify fun f => { f with filled := (id, contents) :: f.filled }

/-- Fills what waits, level by level. Each level but the last meets a new node, so fuel past their
number is never exhausted. -/
def fillAll (fuel : Nat) : StateT Filling Reading Unit :=
  match fuel with
  | 0 => pure ()
  | fuel + 1 => do
    let level := (← get).waiting.reverse
    modify fun f => { f with waiting := [] }
    level.forM fill
    if !level.isEmpty then fillAll fuel

end Filling

namespace Document

def collection? (document : Document) (value : Value) : Option Collection := do
  document.collections.lookup (← value.collection?)

def pairs (document : Document) (value : Value) : List (Value × Value) :=
  match document.collection? value with
  | some (.mapping pairs) => pairs
  | _ => []

def isEmpty (document : Document) (value : Value) : Bool :=
  match value with
  | .null => true
  | .bool b => !b
  | .int n => n = 0
  | .float x => x.isZero
  | .string s => s = ""
  | .bytes octets => octets.isEmpty
  | .nan _ | .timestamp _ => false
  | .list _ | .set _ | .mapping _ => (document.collection? value).any Collection.isEmpty

def ofGraph (graph : Graph) (root : NodeId) : Reading Document := do
  let (value, f) ← (do
    let value ← Filling.meet root
    Filling.fillAll (graph.size + 1)
    pure value : StateT Filling Reading Value).run ⟨graph, [], [], []⟩
  pure ⟨value, f.filled⟩

def parse (text : String) : Reading Document := do
  match ← Graph.parse? text with
  | none => pure ⟨.null, []⟩
  | some (root, graph) => ofGraph graph root

end Document

end ProductionClosure.Yaml

import ProductionClosure.Yaml.Tag

/-!
The nodes of a document. An alias is a further way to the node that it names, which may be one that
the alias stands in, so the nodes make up a graph and not a tree.
-/

namespace ProductionClosure.Yaml

abbrev NodeId := Nat

inductive Content where
  | scalar (text : String)
  | sequence (items : List NodeId)
  | mapping (pairs : List (NodeId × NodeId))
  deriving DecidableEq, Repr

structure Node where
  tag : Tag
  content : Content
  deriving DecidableEq, Repr

instance : Inhabited Node := ⟨⟨.null, .scalar ""⟩⟩

structure Graph where
  nodes : Array Node
  deriving Inhabited

namespace Graph

def empty : Graph := ⟨#[]⟩

def size (g : Graph) : Nat := g.nodes.size

def node (g : Graph) (id : NodeId) : Node := g.nodes.getD id default

def add (g : Graph) (node : Node) : Graph := ⟨g.nodes.push node⟩

def setContent (g : Graph) (id : NodeId) (content : Content) : Graph :=
  ⟨g.nodes.modify id fun node => { node with content := content }⟩

def setTag (g : Graph) (id : NodeId) (tag : Tag) : Graph :=
  ⟨g.nodes.modify id fun node => { node with tag := tag }⟩

def tag (g : Graph) (id : NodeId) : Tag := (g.node id).tag

def content (g : Graph) (id : NodeId) : Content := (g.node id).content

def isMapping (g : Graph) (id : NodeId) : Bool :=
  match g.content id with
  | .mapping _ => true
  | _ => false

def pairs (g : Graph) (id : NodeId) : List (NodeId × NodeId) :=
  match g.content id with
  | .mapping pairs => pairs
  | _ => []

end Graph

end ProductionClosure.Yaml

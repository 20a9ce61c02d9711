import ProductionClosure.Yaml.Graph.Basic
import ProductionClosure.Yaml.Lexer

/-!
The graph that a YAML text writes. Tokens are read one after another; each node gets its place, its
tag and its anchor where it starts, so that aliases inside it can name it. Whatever is wrong with
the tokens, with a tag or with an alias is found where it stands, before anything behind it is read.
-/

namespace ProductionClosure.Yaml

abbrev Handles := List (String × String)

def defaultHandles : Handles := [("!", "!"), ("!!", "tag:yaml.org,2002:")]

structure Properties where
  anchor : Option String
  tag : Option String
  deriving DecidableEq, Repr

/-- A graph under construction, with the tokens that are left and the number of open collections. -/
structure Draft where
  tokens : List Token
  depth : Nat
  graph : Graph
  anchors : List (String × NodeId)

abbrev Drafting (α : Type) := StateT Draft Reading α

namespace Draft

def malformed {α : Type} : Drafting α := throw .malformed

def peek : Drafting (Option Token) := do
  match (← get).tokens with
  | .unreadable problem :: _ => throw (.scalar problem)
  | tokens => pure tokens.head?

def skip : Drafting Unit := modify fun d => { d with tokens := d.tokens.tail }

def skipIf (token : Token) : Drafting Bool := do
  if (← peek) = some token then
    skip
    pure true
  else pure false

def expect (token : Token) : Drafting Unit := do
  if ← skipIf token then pure () else malformed

/-! ### Nodes -/

/-- Puts a node in, under its anchor; no two nodes may have one name. -/
def addNode (anchor : Option String) (node : Node) : Drafting NodeId := do
  let d ← get
  let id := d.graph.size
  let anchors ← match anchor with
    | none => pure d.anchors
    | some name =>
      if (d.anchors.lookup name).isSome then malformed else pure ((name, id) :: d.anchors)
  set { d with graph := d.graph.add node, anchors := anchors }
  pure id

def anchored (name : String) : Drafting NodeId := do
  match (← get).anchors.lookup name with
  | some id => pure id
  | none => malformed

def setContent (id : NodeId) (content : Content) : Drafting Unit :=
  modify fun d => { d with graph := d.graph.setContent id content }

def scalarTag (properties : Properties) (text : String) (plain : Bool) : Tag :=
  match properties.tag with
  | none => if plain then .ofText text else .string
  | some "!" => .ofText text
  | some name => .ofName name

def collectionTag (properties : Properties) (default : Tag) : Tag :=
  match properties.tag with
  | none | some "!" => default
  | some name => .ofName name

def addScalar (properties : Properties) (text : String) (plain : Bool) : Drafting NodeId :=
  addNode properties.anchor ⟨scalarTag properties text plain, .scalar text⟩

def addNothing : Drafting NodeId := addScalar ⟨none, none⟩ "" true

def maxDepth : Nat := 485

/-- Reads what is in a collection. -/
def inside {α : Type} (read : Drafting α) : Drafting α := do
  if maxDepth ≤ (← get).depth then throw .tooDeep
  modify fun d => { d with depth := d.depth + 1 }
  let found ← read
  modify fun d => { d with depth := d.depth - 1 }
  pure found

def addSequence (properties : Properties) (items : Drafting (List NodeId)) : Drafting NodeId := do
  let id ← addNode properties.anchor ⟨collectionTag properties .sequence, .sequence []⟩
  setContent id (.sequence (← inside items))
  pure id

def addMapping (properties : Properties) (pairs : Drafting (List (NodeId × NodeId))) :
    Drafting NodeId := do
  let id ← addNode properties.anchor ⟨collectionTag properties .mapping, .mapping []⟩
  setContent id (.mapping (← inside pairs))
  pure id

/-! ### Properties -/

def tagName (handles : Handles) (handle : Option String) (suffix : String) : Drafting String :=
  match handle with
  | none => pure suffix
  | some handle =>
    match handles.lookup handle with
    | some meaning => pure (meaning ++ suffix)
    | none => malformed

def readAnchor : Drafting (Option String) := do
  match ← peek with
  | some (.anchor name) =>
    skip
    pure (some name)
  | _ => pure none

def readTag : Drafting (Option (Option String × String)) := do
  match ← peek with
  | some (.tag handle suffix) =>
    skip
    pure (some (handle, suffix))
  | _ => pure none

def readProperties (handles : Handles) : Drafting Properties := do
  let first ← readAnchor
  let tag ← readTag
  let anchor ← if first.isNone && tag.isSome then readAnchor else pure first
  match tag with
  | none => pure ⟨anchor, none⟩
  | some (handle, suffix) => pure ⟨anchor, some (← tagName handles handle suffix)⟩

/-! ### Collections -/

inductive Context where
  | flow
  | block
  | mappingPart
  deriving DecidableEq

/-- Tokens that stand for a node left out in front of them. -/
def isAhead (tokens : List Token) : Drafting Bool := do
  pure ((← peek).any tokens.contains)

mutual

/-- A node at the front of the tokens. Each call uses one unit of fuel and every third one at least
one token, so fuel past three times their number is never exhausted. -/
def readNode (fuel : Nat) (handles : Handles) (context : Context) : Drafting NodeId :=
  match fuel with
  | 0 => malformed
  | fuel + 1 => do
    match ← peek with
    | some (.alias name) =>
      skip
      anchored name
    | _ =>
      let properties ← readProperties handles
      match ← peek, context with
      | some .blockEntry, .mappingPart => addSequence properties (readIndentless fuel handles)
      | some (.scalar text plain), _ =>
        skip
        addScalar properties text plain
      | some .flowSequenceStart, _ =>
        addSequence properties do
          skip
          readFlowItems fuel handles true
      | some .flowMappingStart, _ =>
        addMapping properties do
          skip
          readFlowPairs fuel handles true
      | some .blockSequenceStart, .block | some .blockSequenceStart, .mappingPart =>
        addSequence properties do
          skip
          readBlockItems fuel handles
      | some .blockMappingStart, .block | some .blockMappingStart, .mappingPart =>
        addMapping properties do
          skip
          readBlockPairs fuel handles
      | _, _ =>
        if properties.anchor.isSome || properties.tag.isSome then addScalar properties "" true
        else malformed

def readOptional (fuel : Nat) (handles : Handles) (context : Context) (ends : List Token) :
    Drafting NodeId :=
  match fuel with
  | 0 => malformed
  | fuel + 1 => do
    if ← isAhead ends then addNothing else readNode fuel handles context

/-- The value behind a key, which may be left out together with its mark. -/
def readValue (fuel : Nat) (handles : Handles) (context : Context) (ends : List Token) :
    Drafting NodeId :=
  match fuel with
  | 0 => malformed
  | fuel + 1 => do
    if ← skipIf .value then readOptional fuel handles context ends else addNothing

def readBlockItems (fuel : Nat) (handles : Handles) : Drafting (List NodeId) :=
  match fuel with
  | 0 => malformed
  | fuel + 1 => do
    if ← skipIf .blockEntry then
      let item ← readOptional fuel handles .block [.blockEntry, .blockEnd]
      let items ← readBlockItems fuel handles
      pure (item :: items)
    else
      expect .blockEnd
      pure []

/-- The items of a sequence that is indented like the keys around it. -/
def readIndentless (fuel : Nat) (handles : Handles) : Drafting (List NodeId) :=
  match fuel with
  | 0 => malformed
  | fuel + 1 => do
    if ← skipIf .blockEntry then
      let item ← readOptional fuel handles .block [.blockEntry, .key, .value, .blockEnd]
      let items ← readIndentless fuel handles
      pure (item :: items)
    else pure []

def readBlockPairs (fuel : Nat) (handles : Handles) : Drafting (List (NodeId × NodeId)) :=
  match fuel with
  | 0 => malformed
  | fuel + 1 => do
    if ← skipIf .key then
      let key ← readOptional fuel handles .mappingPart [.key, .value, .blockEnd]
      let value ← readValue fuel handles .mappingPart [.key, .value, .blockEnd]
      let pairs ← readBlockPairs fuel handles
      pure ((key, value) :: pairs)
    else
      expect .blockEnd
      pure []

/-- The items of a flow sequence and its closing bracket. An item may be a single pair. -/
def readFlowItems (fuel : Nat) (handles : Handles) (first : Bool) : Drafting (List NodeId) :=
  match fuel with
  | 0 => malformed
  | fuel + 1 => do
    if ← skipIf .flowSequenceEnd then pure []
    else
      if !first then expect .flowEntry
      if ← skipIf .flowSequenceEnd then pure []
      else
        let item ←
          if ← skipIf .key then
            addMapping ⟨none, none⟩ do
              let ends := [Token.flowEntry, .flowSequenceEnd]
              let key ← readOptional fuel handles .flow (.value :: ends)
              let value ← readValue fuel handles .flow ends
              pure [(key, value)]
          else readNode fuel handles .flow
        let items ← readFlowItems fuel handles false
        pure (item :: items)

/-- The pairs of a flow mapping and its closing brace. A pair may be a key alone. -/
def readFlowPairs (fuel : Nat) (handles : Handles) (first : Bool) :
    Drafting (List (NodeId × NodeId)) :=
  match fuel with
  | 0 => malformed
  | fuel + 1 => do
    if ← skipIf .flowMappingEnd then pure []
    else
      if !first then expect .flowEntry
      if ← skipIf .flowMappingEnd then pure []
      else
        let pair ←
          if ← skipIf .key then
            let ends := [Token.flowEntry, .flowMappingEnd]
            let key ← readOptional fuel handles .flow (.value :: ends)
            let value ← readValue fuel handles .flow ends
            pure (key, value)
          else
            let key ← readNode fuel handles .flow
            pure (key, ← addNothing)
        let pairs ← readFlowPairs fuel handles false
        pure (pair :: pairs)

end

/-! ### Documents -/

/-- The directives in front of a document: at most one version, of the first generation, and each
handle at most once. -/
def readDirectives (fuel : Nat) (versionSeen : Bool) (handles : Handles) : Drafting Handles :=
  match fuel with
  | 0 => malformed
  | fuel + 1 => do
    match ← peek with
    | some (.directive directive) =>
      skip
      match directive with
      | .version major _ =>
        if versionSeen || major ≠ 1 then malformed else readDirectives fuel true handles
      | .tag handle meaning =>
        if (handles.lookup handle).isSome then malformed
        else readDirectives fuel versionSeen ((handle, meaning) :: handles)
      | .other => readDirectives fuel versionSeen handles
    | _ => pure (handles ++ defaultHandles)

def skipDocumentEnds (fuel : Nat) : Drafting Unit :=
  match fuel with
  | 0 => pure ()
  | fuel + 1 => do if ← skipIf .documentEnd then skipDocumentEnds fuel

def readStreamEnd (fuel : Nat) : Drafting Unit := do
  skipDocumentEnds fuel
  match ← peek with
  | none => pure ()
  | some _ =>
    let _ ← readDirectives fuel false []
    malformed

def readDocument (fuel : Nat) : Drafting NodeId := do
  match ← peek with
  | some (.directive _) | some .documentStart =>
    let handles ← readDirectives fuel false []
    expect .documentStart
    match ← peek with
    | none | some (.directive _) | some .documentStart | some .documentEnd => addNothing
    | _ => readNode fuel handles .block
  | _ => readNode fuel defaultHandles .block

/-- The only document of a stream: none when the stream is empty. -/
def readStream (fuel : Nat) : Drafting (Option NodeId) := do
  match ← peek with
  | none => pure none
  | some _ =>
    let root ← readDocument fuel
    readStreamEnd fuel
    pure (some root)

end Draft

namespace Graph

/-- The graph of the only document among the tokens with its root, if there is a document. -/
def ofTokens? (tokens : List Token) : Reading (Option (NodeId × Graph)) := do
  let (root, draft) ← (Draft.readStream (3 * tokens.length + 3)).run ⟨tokens, 0, .empty, []⟩
  pure (root.map fun root => (root, draft.graph))

def parse? (text : String) : Reading (Option (NodeId × Graph)) := do
  ofTokens? (← Token.ofChars text.toList)

end Graph

end ProductionClosure.Yaml

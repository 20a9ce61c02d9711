import ProductionClosure.Dependency.Basic
import ProductionClosure.Json.Decoder
import ProductionClosure.Schema.Scalar
import ProductionClosure.Text.Quoted

/-!
Reading dependency trees from the package manager's report. Mappings wait on a stack: the mapping on
top is checked from its first to its last member, then the mappings below its members take its place
with the last one on top. The checked levels come out in that order and are put together from the
last one back to the first.
-/

namespace ProductionClosure

inductive ReportFault where
  | notJson (failure : Json.DecodeFailure)
  | entryNotObject (index : Nat) (kind : String)
  | badEntry (index : Nat) (rejection : Schema.Rejection)
  | dependencyNotObject (key : String) (kind : String)
  | badDependency (key : String) (rejection : Schema.Rejection)
  deriving DecidableEq, Repr

def ReportFault.message : ReportFault → String
  | .notJson failure => s!"Invalid JSON in dependency tree: {failure.message}"
  | .entryNotObject index kind => s!"Expected an object for workspace entry {index}, got {kind}"
  | .badEntry index rejection => s!"Malformed workspace entry {index}: {rejection.message}"
  | .dependencyNotObject key kind =>
    s!"Expected an object for dependency {Text.quoted key}, got {kind}"
  | .badDependency key rejection => s!"Malformed dependency {Text.quoted key}: {rejection.message}"

/-- The fields of a node: its package and the mapping below it. Each field has a name in reports and
a name of its own; the name in reports wins. -/
def Package.check (members : Json.Members) : Schema.Checked (Package × Json.Members) :=
  (fun name version storePath children => (⟨name, version, storePath⟩, children))
    <$> Schema.aliasedField members "from" "name" Schema.text ""
    <*> Schema.optionalField members "version" Schema.text ""
    <*> Schema.aliasedField members "path" "store_path" Schema.optionalText none
    <*> Schema.aliasedField members "dependencies" "children" Schema.dictionaryOrNull []

/-- A workspace entry whose dependencies are not read yet. -/
structure EntryHeader where
  name : String
  version : String
  path : String
  isPrivate : Bool
  deriving DecidableEq, Repr

def EntryHeader.withDependencies (header : EntryHeader) (dependencies : Forest) :
    WorkspaceEntry :=
  ⟨header.name, header.version, header.path, header.isPrivate, dependencies⟩

def EntryHeader.check (members : Json.Members) : Schema.Checked (EntryHeader × Json.Members) :=
  (fun name version path isPrivate dependencies => (⟨name, version, path, isPrivate⟩, dependencies))
    <$> Schema.optionalField members "name" Schema.text ""
    <*> Schema.optionalField members "version" Schema.text ""
    <*> Schema.optionalField members "path" Schema.text ""
    <*> Schema.optionalField members "private" Schema.flag false
    <*> Schema.optionalField members "dependencies" Schema.dictionaryOrNull []

/-- A mapping whose own members are checked, while those below them are not. -/
abbrev TreeLevel := List (String × Package × Json.Members)

def readNode (key : String) (value : Json) : Except ReportFault (Package × Json.Members) :=
  match value with
  | .object members =>
    ((Package.check members).toExcept "DependencyNode").mapError (.badDependency key)
  | value => .error (.dependencyNotObject key value.kindName)

def readLevel : Json.Members → Except ReportFault TreeLevel
  | [] => .ok []
  | (key, value) :: rest =>
    match readNode key value with
    | .error fault => .error fault
    | .ok (package, children) =>
      match readLevel rest with
      | .error fault => .error fault
      | .ok level => .ok ((key, package, children) :: level)

def TreeLevel.below (level : TreeLevel) : List Json.Members := level.map fun node => node.2.2

theorem sizeOf_lt_of_get? {members : Json.Members} {key : String} {value : Json}
    (h : members.get? key = some value) : sizeOf value < sizeOf members := by
  induction members with
  | nil => simp [Json.Members.get?] at h
  | cons m rest ih =>
    obtain ⟨k, v⟩ := m
    rw [Json.Members.get?, List.lookup_cons] at h
    split at h
    · cases h
      simp only [List.cons.sizeOf_spec, Prod.mk.sizeOf_spec]
      omega
    · have := ih h
      simp only [List.cons.sizeOf_spec]
      omega

private theorem sizeOf_optionalField_le {members : Json.Members} {key : String}
    {children : Json.Members}
    (h : Schema.optionalField members key Schema.dictionaryOrNull [] = .valid children) :
    sizeOf children ≤ sizeOf members := by
  have small : sizeOf ([] : Json.Members) ≤ sizeOf members := by
    cases members with
    | nil => exact Nat.le_refl _
    | cons m rest =>
      simp only [List.nil.sizeOf_spec, List.cons.sizeOf_spec]
      omega
  unfold Schema.optionalField at h
  split at h
  · simp only [Schema.Checked.valid.injEq] at h
    subst h
    exact small
  · next value found =>
    have := sizeOf_lt_of_get? found
    cases value <;> simp [Schema.atKey, Schema.dictionaryOrNull, Schema.dictionary] at h
    · subst h
      exact small
    · subst h
      simp only [Json.object.sizeOf_spec] at this
      omega

/-- What is below a node is smaller than the object that the node was read from. -/
theorem sizeOf_of_check {members children : Json.Members} {package : Package}
    (h : Package.check members = .valid (package, children)) :
    sizeOf children ≤ sizeOf members := by
  unfold Package.check at h
  change Schema.Checked.seq _ _ = _ at h
  rw [Schema.Checked.seq_eq_valid] at h
  obtain ⟨g, a, hg, ha, hga⟩ := h
  have hc : a = children := by
    change Schema.Checked.seq (Schema.Checked.seq (Schema.Checked.map _ _) _) _ = _ at hg
    simp only [Schema.Checked.seq_eq_valid, Schema.Checked.map_eq_valid] at hg
    obtain ⟨g1, a1, ⟨g2, a2, ⟨a3, _, rfl⟩, _, rfl⟩, _, rfl⟩ := hg
    simpa using congrArg Prod.snd hga
  subst hc
  unfold Schema.aliasedField at ha
  split at ha <;> exact sizeOf_optionalField_le ha

noncomputable def totalSizeOf : List Json.Members → Nat
  | [] => 0
  | mapping :: rest => sizeOf mapping + totalSizeOf rest

theorem totalSizeOf_append (left right : List Json.Members) :
    totalSizeOf (left ++ right) = totalSizeOf left + totalSizeOf right := by
  induction left with
  | nil => simp [totalSizeOf]
  | cons mapping rest ih => simp [totalSizeOf, ih, Nat.add_assoc]

theorem totalSizeOf_reverse (mappings : List Json.Members) :
    totalSizeOf mappings.reverse = totalSizeOf mappings := by
  induction mappings with
  | nil => rfl
  | cons mapping rest ih => simp [totalSizeOf, totalSizeOf_append, ih, Nat.add_comm]

/-- What is below a node is smaller than the value that the node was read from. -/
theorem sizeOf_of_readNode {key : String} {value : Json} {package : Package}
    {children : Json.Members} (h : readNode key value = .ok (package, children)) :
    sizeOf children < sizeOf value := by
  cases value <;> simp only [readNode, reduceCtorEq] at h
  next members =>
    cases hcheck : Package.check members with
    | invalid defects =>
      rw [hcheck] at h
      cases h
    | valid result =>
      rw [hcheck] at h
      cases h
      have := sizeOf_of_check hcheck
      simp only [Json.object.sizeOf_spec]
      omega

theorem totalSizeOf_below_lt {mapping : Json.Members} {level : TreeLevel}
    (h : readLevel mapping = .ok level) : totalSizeOf level.below < sizeOf mapping := by
  induction mapping generalizing level with
  | nil =>
    simp only [readLevel, Except.ok.injEq] at h
    subst h
    simp [TreeLevel.below, totalSizeOf]
  | cons m rest ih =>
    obtain ⟨key, value⟩ := m
    rw [readLevel] at h
    split at h
    · simp at h
    · next package children hnode =>
      split at h
      · simp at h
      · next tail htail =>
        simp only [Except.ok.injEq] at h
        subst h
        have hrest := ih htail
        have hvalue := sizeOf_of_readNode hnode
        simp only [TreeLevel.below, List.map_cons, totalSizeOf, List.cons.sizeOf_spec,
          Prod.mk.sizeOf_spec] at hrest ⊢
        omega

/-- Checks all mappings on a stack with everything below them, last sibling first. -/
def readLevels (pending : List Json.Members) : Except ReportFault (List TreeLevel) :=
  match pending with
  | [] => .ok []
  | mapping :: rest =>
    match _h : readLevel mapping with
    | .error fault => .error fault
    | .ok level =>
      match readLevels (level.below.reverse ++ rest) with
      | .error fault => .error fault
      | .ok levels => .ok (level :: levels)
  termination_by totalSizeOf pending
  decreasing_by
    have := totalSizeOf_below_lt _h
    simp only [totalSizeOf_append, totalSizeOf_reverse, totalSizeOf]
    omega

/-- Puts a level together with the forests below its members, which are given last one first. -/
def TreeLevel.assemble (level : TreeLevel) (done : List Forest) : List Forest :=
  let children := (done.take level.length).reverse
  Forest.ofList (level.zipWith (fun node below => (node.1, node.2.1, below)) children)
    :: done.drop level.length

def assemble (levels : List TreeLevel) : Forest :=
  (levels.foldr TreeLevel.assemble []).headD .empty

def readDependencies (mapping : Json.Members) : Except ReportFault Forest :=
  (readLevels [mapping]).map assemble

def readEntry (index : Nat) (value : Json) : Except ReportFault WorkspaceEntry :=
  match value with
  | .object members => do
    let (header, dependencies) ←
      ((EntryHeader.check members).toExcept "WorkspaceEntry").mapError (.badEntry index)
    let forest ← readDependencies dependencies
    pure (header.withDependencies forest)
  | value => .error (.entryNotObject index value.kindName)

def readEntries (index : Nat) : List Json → Except ReportFault (List WorkspaceEntry)
  | [] => .ok []
  | value :: rest => do
    let entry ← readEntry index value
    let entries ← readEntries (index + 1) rest
    pure (entry :: entries)

/-- The items of a report: the array's, or the value alone. -/
def reportItems : Json → List Json
  | .array items => items
  | value => [value]

def readReport (value : Json) : Except ReportFault (List WorkspaceEntry) :=
  readEntries 0 (reportItems value)

def parseReport (raw : String) : Except ReportFault (List WorkspaceEntry) := do
  let value ← (Json.decode raw).mapError .notJson
  readReport value

end ProductionClosure

import Mathlib.Data.List.Forall2
import ProductionClosure.Dependency.Reading
import ProductionClosure.Proofs.Outcome
import ProductionClosure.Proofs.Schema.Field

/-!
What a report stands for. A report is decoded along its structure: an object or an array of objects
gives the entries, each member of a mapping gives one package in the same place, and the mapping
below a package gives the forest below it. Apart from this stands what a well-formed report is,
which is said of each mapping at each depth by itself. The two meet: the well-formed reports are
those that can be decoded.
-/

namespace ProductionClosure

open Schema

/-- The object of a node, the package that it stands for, and the mapping below it. -/
structure Package.Decodes (package : Package) (members below : Json.Members) : Prop where
  name : Holds IsText "" (members.either? "from" "name") package.name
  version : Holds IsText "" (members.get? "version") package.version
  storePath : Holds IsTextOrNull none (members.either? "path" "store_path") package.storePath
  below : Holds IsMapping [] (members.either? "dependencies" "children") below

/-- A mapping and the forest that it stands for: the same keys in the same order. -/
inductive Forest.Decodes : Forest → Json.Members → Prop where
  | empty : Decodes .empty []
  | node {key : String} {package : Package} {members below rest : Json.Members}
      {children siblings : Forest} (hpackage : package.Decodes members below)
      (hchildren : Decodes children below) (hsiblings : Decodes siblings rest) :
      Decodes (.node key package children siblings) ((key, .object members) :: rest)

structure EntryHeader.Decodes (header : EntryHeader) (members dependencies : Json.Members) :
    Prop where
  name : Holds IsText "" (members.get? "name") header.name
  version : Holds IsText "" (members.get? "version") header.version
  path : Holds IsText "" (members.get? "path") header.path
  isPrivate : Holds IsFlag false (members.get? "private") header.isPrivate
  dependencies : Holds IsMapping [] (members.get? "dependencies") dependencies

inductive WorkspaceEntry.Decodes : WorkspaceEntry → Json → Prop where
  | object {members dependencies : Json.Members} {header : EntryHeader} {forest : Forest}
      (hheader : header.Decodes members dependencies) (hforest : forest.Decodes dependencies) :
      Decodes (header.withDependencies forest) (.object members)

/-- A report and the entries that it stands for, one for each of its objects. -/
inductive EntriesDecode : List WorkspaceEntry → Json → Prop where
  | single {members : Json.Members} {entry : WorkspaceEntry} (h : entry.Decodes (.object members)) :
      EntriesDecode [entry] (.object members)
  | array {items : List Json} {entries : List WorkspaceEntry}
      (h : List.Forall₂ WorkspaceEntry.Decodes entries items) :
      EntriesDecode entries (.array items)

/-! ### Well-formed reports -/

def IsNode (value : Json) : Prop :=
  ∃ members package below, value = .object members ∧ Package.Decodes package members below

/-- The mapping itself, and every mapping that stands below one of its nodes, at any depth. -/
inductive Encloses : Json.Members → Json.Members → Prop where
  | here {mapping : Json.Members} : Encloses mapping mapping
  | deeper {key : String} {package : Package} {mapping members inner other : Json.Members}
      (hmem : (key, .object members) ∈ mapping) (hpackage : package.Decodes members inner)
      (h : Encloses inner other) : Encloses mapping other

/-- At every depth every value of every mapping is a node. -/
def MappingWellFormed (mapping : Json.Members) : Prop :=
  ∀ other, Encloses mapping other → ∀ key value, (key, value) ∈ other → IsNode value

def EntryWellFormed (value : Json) : Prop :=
  ∃ members header dependencies, value = .object members ∧
    EntryHeader.Decodes header members dependencies ∧ MappingWellFormed dependencies

def ReportWellFormed : Json → Prop
  | .object members => EntryWellFormed (.object members)
  | .array items => ∀ item ∈ items, EntryWellFormed item
  | _ => False

/-! ### The checks of whole records -/

theorem Package.check_eq_valid {members below : Json.Members} {package : Package} :
    Package.check members = .valid (package, below) ↔ package.Decodes members below := by
  obtain ⟨name, version, storePath⟩ := package
  simp only [Package.check, Checked.apply_eq_seq, Checked.map_eq, Checked.seq_eq_valid,
    Checked.map_eq_valid, aliasedField_eq_valid (fun _ _ => text_eq_ok),
    optionalField_eq_valid (fun _ _ => text_eq_ok),
    aliasedField_eq_valid (fun _ _ => optionalText_eq_ok),
    aliasedField_eq_valid (fun _ _ => dictionaryOrNull_eq_ok)]
  -- the fields are applied one by one, the last of them outermost
  constructor
  · rintro ⟨_, _, ⟨_, _, ⟨_, _, ⟨_, hname, rfl⟩, hversion, rfl⟩, hpath, rfl⟩, hbelow, heq⟩
    cases heq
    exact ⟨hname, hversion, hpath, hbelow⟩
  · rintro ⟨hname, hversion, hpath, hbelow⟩
    exact ⟨_, _, ⟨_, _, ⟨_, _, ⟨_, hname, rfl⟩, hversion, rfl⟩, hpath, rfl⟩, hbelow, rfl⟩

theorem EntryHeader.check_eq_valid {members dependencies : Json.Members} {header : EntryHeader} :
    EntryHeader.check members = .valid (header, dependencies) ↔
      header.Decodes members dependencies := by
  obtain ⟨name, version, path, isPrivate⟩ := header
  simp only [EntryHeader.check, Checked.apply_eq_seq, Checked.map_eq, Checked.seq_eq_valid,
    Checked.map_eq_valid, optionalField_eq_valid (fun _ _ => text_eq_ok),
    optionalField_eq_valid (fun _ _ => flag_eq_ok),
    optionalField_eq_valid (fun _ _ => dictionaryOrNull_eq_ok)]
  constructor
  · rintro ⟨_, _, ⟨_, _, ⟨_, _, ⟨_, _, ⟨_, hname, rfl⟩, hversion, rfl⟩, hpath, rfl⟩, hprivate, rfl⟩,
      hdependencies, heq⟩
    cases heq
    exact ⟨hname, hversion, hpath, hprivate, hdependencies⟩
  · rintro ⟨hname, hversion, hpath, hprivate, hdependencies⟩
    exact ⟨_, _, ⟨_, _, ⟨_, _, ⟨_, _, ⟨_, hname, rfl⟩, hversion, rfl⟩, hpath, rfl⟩, hprivate, rfl⟩,
      hdependencies, rfl⟩

theorem readNode_eq_ok {key : String} {value : Json} {package : Package} {below : Json.Members} :
    readNode key value = .ok (package, below) ↔
      ∃ members, value = .object members ∧ package.Decodes members below := by
  cases value with
  | object members =>
    simp only [readNode, Outcome.mapError_eq_ok, Checked.toExcept_eq_ok, Package.check_eq_valid,
      Json.object.injEq, exists_eq_left']
  | null | bool | int | float | string | array => simp [readNode]

/-! ### Well-formed is what can be decoded -/

theorem Schema.Holds.unique {α : Type} {reads : Json → α → Prop} {default held other : α}
    (hreads : ∀ value held other, reads value held → reads value other → held = other)
    {found : Option Json} (h : Holds reads default found held)
    (hother : Holds reads default found other) : held = other := by
  cases h with
  | absent =>
    cases hother
    rfl
  | given h =>
    cases hother with
    | given hother => exact hreads _ _ _ h hother

theorem Schema.IsMapping.unique (value : Json) (held other : Json.Members)
    (h : IsMapping value held) (hother : IsMapping value other) : held = other := by
  cases h <;> cases hother <;> rfl

/-- What is below a node is read off its object. -/
theorem Package.Decodes.unique_below {package other : Package}
    {members below otherBelow : Json.Members} (h : package.Decodes members below)
    (hother : other.Decodes members otherBelow) : below = otherBelow :=
  h.below.unique IsMapping.unique hother.below

theorem Package.Decodes.sizeOf_below {package : Package} {members below : Json.Members}
    (h : package.Decodes members below) : sizeOf below ≤ sizeOf members :=
  sizeOf_of_check (Package.check_eq_valid.mpr h)

theorem Forest.Decodes.exists_of_mem {forest : Forest} {mapping : Json.Members}
    (h : forest.Decodes mapping) {key : String} {value : Json} (hmem : (key, value) ∈ mapping) :
    ∃ members package below, value = .object members ∧ Package.Decodes package members below ∧
      ∃ children, Forest.Decodes children below := by
  induction h with
  | empty => exact absurd hmem List.not_mem_nil
  | node hpackage hchildren _ _ ih =>
    rcases List.mem_cons.mp hmem with heq | hrest
    · cases heq
      exact ⟨_, _, _, rfl, hpackage, _, hchildren⟩
    · exact ih hrest

theorem Forest.Decodes.mappingWellFormed {forest : Forest} {mapping : Json.Members}
    (h : forest.Decodes mapping) : MappingWellFormed mapping := by
  intro other hencloses key value hmem
  induction hencloses generalizing forest with
  | here =>
    obtain ⟨members, package, below, rfl, hpackage, -⟩ := h.exists_of_mem hmem
    exact ⟨members, package, below, rfl, hpackage⟩
  | deeper hinner hpackage _ ih =>
    obtain ⟨members, _, below, heq, hfound, children, hchildren⟩ := h.exists_of_mem hinner
    cases heq
    obtain rfl := hpackage.unique_below hfound
    exact ih hchildren hmem

theorem MappingWellFormed.of_cons {member : String × Json} {rest : Json.Members}
    (h : MappingWellFormed (member :: rest)) : MappingWellFormed rest := by
  intro other hencloses key value hmem
  cases hencloses with
  | here => exact h _ .here key value (List.mem_cons_of_mem _ hmem)
  | deeper hinner hpackage hother =>
    exact h _ (.deeper (List.mem_cons_of_mem _ hinner) hpackage hother) key value hmem

theorem MappingWellFormed.exists_decodes {mapping : Json.Members}
    (h : MappingWellFormed mapping) : ∃ forest, Forest.Decodes forest mapping := by
  induction hsize : sizeOf mapping using Nat.strongRecOn generalizing mapping with
  | ind size ih =>
    cases mapping with
    | nil => exact ⟨.empty, .empty⟩
    | cons member rest =>
      obtain ⟨key, value⟩ := member
      obtain ⟨members, package, below, rfl, hpackage⟩ := h _ .here key value List.mem_cons_self
      have hbelow : MappingWellFormed below := by
        intro other hencloses
        exact h other (.deeper List.mem_cons_self hpackage hencloses)
      -- both what is below the node and what is behind it are smaller
      have hsmaller := hpackage.sizeOf_below
      simp only [List.cons.sizeOf_spec, Prod.mk.sizeOf_spec, Json.object.sizeOf_spec] at hsize
      obtain ⟨children, hchildren⟩ := ih (sizeOf below) (by omega) hbelow rfl
      obtain ⟨siblings, hsiblings⟩ := ih (sizeOf rest) (by omega) h.of_cons rfl
      exact ⟨_, .node hpackage hchildren hsiblings⟩

theorem exists_decodes_iff_entryWellFormed {value : Json} :
    (∃ entry, WorkspaceEntry.Decodes entry value) ↔ EntryWellFormed value := by
  constructor
  · rintro ⟨_, ⟨hheader, hforest⟩⟩
    exact ⟨_, _, _, rfl, hheader, hforest.mappingWellFormed⟩
  · rintro ⟨members, header, dependencies, rfl, hheader, hdependencies⟩
    obtain ⟨forest, hforest⟩ := hdependencies.exists_decodes
    exact ⟨_, .object hheader hforest⟩

theorem exists_forall₂_decodes_iff {items : List Json} :
    (∃ entries, List.Forall₂ WorkspaceEntry.Decodes entries items) ↔
      ∀ item ∈ items, EntryWellFormed item := by
  simp only [← exists_decodes_iff_entryWellFormed]
  induction items with
  | nil => simp
  | cons item rest ih =>
    rw [List.forall_mem_cons, ← ih]
    simp only [List.forall₂_cons_right_iff]
    constructor
    · rintro ⟨_, entry, entries, hentry, hentries, rfl⟩
      exact ⟨⟨entry, hentry⟩, entries, hentries⟩
    · rintro ⟨⟨entry, hentry⟩, entries, hentries⟩
      exact ⟨_, entry, entries, hentry, hentries, rfl⟩

theorem exists_entriesDecode_iff {value : Json} :
    (∃ entries, EntriesDecode entries value) ↔ ReportWellFormed value := by
  cases value with
  | object members =>
    rw [ReportWellFormed, ← exists_decodes_iff_entryWellFormed]
    constructor
    · rintro ⟨_, ⟨h⟩⟩
      exact ⟨_, h⟩
    · rintro ⟨entry, h⟩
      exact ⟨[entry], .single h⟩
  | array items =>
    rw [ReportWellFormed, ← exists_forall₂_decodes_iff]
    constructor
    · rintro ⟨entries, _ | h⟩
      exact ⟨entries, h⟩
    · rintro ⟨entries, h⟩
      exact ⟨entries, .array h⟩
  | null | bool | int | float | string =>
    refine iff_of_false ?_ id
    rintro ⟨_, h⟩
    cases h

end ProductionClosure

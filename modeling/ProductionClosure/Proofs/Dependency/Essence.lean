import ProductionClosure.Proofs.Dependency.Inspection

/-!
What a report is read by. Of the members of a node and of an entry some count and the others do not:
each field counts one member at most. A report can be cut down to the members that count, at every
depth, and reading it comes to the same as before, whether it succeeds or fails. Mappings between
the nodes keep all their members in their order, since each of them is a node.
-/

namespace ProductionClosure

open Schema

/-! ### The members that count -/

/-- The keys of the fields of a node: the leading one, and the one that counts where the leading one
is missing. -/
def nodeFields : List (String × String) :=
  [("from", "name"), ("version", "version"), ("path", "store_path"), ("dependencies", "children")]

def entryFields : List (String × String) :=
  [("name", "name"), ("version", "version"), ("path", "path"), ("private", "private"),
    ("dependencies", "dependencies")]

namespace Json

def Members.member? (members : Members) (key : String) : Option (String × Json) :=
  (members.get? key).map fun value => (key, value)

def Members.counting (members : Members) (field : String × String) : Option (String × Json) :=
  (members.member? field.1).or (members.member? field.2)

/-- An object with other members, or a value of another kind as it is. -/
def withMembers (inner : Members) : Json → Json
  | .object _ => .object inner
  | value => value

/-- The members that count for some fields, with what is below them replaced. -/
def Members.cut (members : Members) (fields : List (String × String)) (below : Members) : Members :=
  (fields.filterMap members.counting).map fun member => (member.1, member.2.withMembers below)

def cut (fields : List (String × String)) (below : Members) : Json → Json
  | .object members => .object (Members.cut members fields below)
  | value => value

end Json

def cutMapping (mapping : Json.Members) : Json.Members :=
  mapping.map fun member => (member.1, member.2.cut nodeFields (cutMapping member.2.mappingOfNode))
  termination_by sizeOf mapping
  decreasing_by exact sizeOf_mappingOfNode_lt ‹_›

def cutNode (value : Json) : Json := value.cut nodeFields (cutMapping value.mappingOfNode)

def cutEntry (value : Json) : Json := value.cut entryFields (cutMapping value.mappingOfEntry)

def cutReport : Json → Json
  | .array items => .array (items.map cutEntry)
  | value => cutEntry value

theorem cutMapping_eq_map (mapping : Json.Members) :
    cutMapping mapping = mapping.map fun member => (member.1, cutNode member.2) := by
  rw [cutMapping]
  rfl

@[simp] theorem cutMapping_nil : cutMapping [] = [] := by
  rw [cutMapping, List.map_nil]

/-! ### Looking up what was kept -/

namespace Json.Members

variable {members : Members} {key : String} {value : Json} {field : String × String}
  {fields : List (String × String)} {below : Members}

theorem get?_map (members : Members) (key : String) (f : Json → Json) :
    get? (members.map fun member => (member.1, f member.2)) key = (members.get? key).map f := by
  induction members with
  | nil => rfl
  | cons member rest ih =>
    rw [List.map_cons, get?, get?, List.lookup_cons, List.lookup_cons]
    cases key == member.1 with
    | true => rfl
    | false => exact ih

theorem get?_of_counting (h : members.counting field = some (key, value)) :
    members.get? key = some value := by
  rcases Option.or_eq_some_iff.mp h with hfound | ⟨-, hfound⟩ <;>
  · obtain ⟨_, hget, heq⟩ := Option.map_eq_some_iff.mp hfound
    cases heq
    exact hget

/-- Whatever is kept stands under its key among all members. -/
theorem get?_of_kept (h : get? (fields.filterMap members.counting) key = some value) :
    members.get? key = some value := by
  obtain ⟨before, after, hlist, -⟩ := List.lookup_eq_some_iff.mp h
  have hmem : (key, value) ∈ fields.filterMap members.counting := by
    rw [hlist]
    exact List.mem_append_right before List.mem_cons_self
  obtain ⟨field, -, hfield⟩ := List.mem_filterMap.mp hmem
  exact get?_of_counting hfield

/-- The member that counts for a field is found among those kept. -/
theorem get?_kept (hfield : field ∈ fields) (h : members.counting field = some (key, value)) :
    get? (fields.filterMap members.counting) key = some value := by
  have hmem : (key, value) ∈ fields.filterMap members.counting :=
    List.mem_filterMap.mpr ⟨field, hfield, h⟩
  cases hget : get? (fields.filterMap members.counting) key with
  | none =>
    have := List.lookup_eq_none_iff.mp hget _ hmem
    simp at this
  | some other => rw [← get?_of_kept hget, get?_of_counting h]

theorem get?_kept_eq_none (h : members.get? key = none) :
    get? (fields.filterMap members.counting) key = none := by
  cases hget : get? (fields.filterMap members.counting) key with
  | none => rfl
  | some other =>
    rw [get?_of_kept hget] at h
    cases h

/-- A field that members are cut down to is read from the same member as before. -/
theorem counting_cut (hfield : field ∈ fields) :
    (members.cut fields below).counting field =
      (members.counting field).map fun member => (member.1, member.2.withMembers below) := by
  have hkept : ∀ key, (members.cut fields below).get? key =
      (get? (fields.filterMap members.counting) key).map (withMembers below) :=
    fun key => get?_map _ key _
  simp only [counting, member?, hkept]
  cases hleading : members.get? field.1 with
  | some value =>
    have hcounting : members.counting field = some (field.1, value) := by
      rw [counting, member?, hleading]
      rfl
    rw [get?_kept hfield hcounting]
    rfl
  | none =>
    rw [get?_kept_eq_none hleading]
    cases hname : members.get? field.2 with
    | some value =>
      have hcounting : members.counting field = some (field.2, value) := by
        rw [counting, member?, member?, hleading, hname]
        rfl
      rw [get?_kept hfield hcounting]
      rfl
    | none =>
      rw [get?_kept_eq_none hname]
      rfl

end Json.Members

/-! ### The checks of fields -/

/-- A field is checked on the member that counts for it. -/
theorem Schema.aliasedField_eq_counting {α : Type} (members : Json.Members) (leading name : String)
    (check : Json → Except Problem α) (default : α) :
    aliasedField members leading name check default =
      match members.counting (leading, name) with
      | none => .valid default
      | some (key, value) => atKey key (check value) := by
  unfold aliasedField optionalField Json.Members.counting Json.Members.member?
  cases members.get? leading with
  | some value => rfl
  | none => cases members.get? name <;> rfl

theorem Schema.optionalField_eq_aliasedField {α : Type} (members : Json.Members) (key : String)
    (check : Json → Except Problem α) (default : α) :
    optionalField members key check default = aliasedField members key key check default := by
  rw [aliasedField, ite_self]

theorem Json.shape_withMembers (inner : Json.Members) (value : Json) :
    (value.withMembers inner).shape = value.shape := by
  cases value <;> rfl

theorem Schema.text_withMembers (inner : Json.Members) (value : Json) :
    text (value.withMembers inner) = text value :=
  congrArg textOf (value.shape_withMembers inner)

theorem Schema.optionalText_withMembers (inner : Json.Members) (value : Json) :
    optionalText (value.withMembers inner) = optionalText value :=
  congrArg optionalTextOf (value.shape_withMembers inner)

theorem Schema.flag_withMembers (inner : Json.Members) (value : Json) :
    flag (value.withMembers inner) = flag value :=
  congrArg boolOf (value.shape_withMembers inner)

theorem Schema.atKey_map {α : Type} (key : String) (result : Except Problem α) (f : α → α) :
    atKey key (result.map f) = (atKey key result).map f := by
  cases result <;> rfl

section

variable {α : Type} {check : Json → Except Problem α} {default : α} {members below : Json.Members}
  {fields : List (String × String)} {leading name key : String}

/-- What a field of the cut members holds follows what it held, if each value that counts does. -/
theorem Schema.aliasedField_cut {f : α → α} (hfield : (leading, name) ∈ fields)
    (hdefault : f default = default)
    (hcheck : ∀ key value, members.counting (leading, name) = some (key, value) →
      check (value.withMembers below) = (check value).map f) :
    aliasedField (members.cut fields below) leading name check default =
      (aliasedField members leading name check default).map f := by
  rw [aliasedField_eq_counting, aliasedField_eq_counting, Json.Members.counting_cut hfield]
  cases hcounting : members.counting (leading, name) with
  | none => exact congrArg Checked.valid hdefault.symm
  | some member =>
    obtain ⟨key, value⟩ := member
    simp only [Option.map_some, hcheck key value hcounting]
    exact atKey_map key _ f

/-- A field that takes all objects alike is left as it was. -/
theorem Schema.aliasedField_cut_of_blind (hfield : (leading, name) ∈ fields)
    (hcheck : ∀ value, check (value.withMembers below) = check value) :
    aliasedField (members.cut fields below) leading name check default =
      aliasedField members leading name check default := by
  rw [aliasedField_eq_counting, aliasedField_eq_counting, Json.Members.counting_cut hfield]
  cases members.counting (leading, name) with
  | none => rfl
  | some member => simp only [Option.map_some, hcheck]

/-- The mapping of a field is cut down by itself. -/
theorem Schema.aliasedField_cut_of_mapping (hfield : (leading, name) ∈ fields)
    (hbelow : below = cutMapping (Json.membersOf (members.either? leading name))) :
    aliasedField (members.cut fields below) leading name dictionaryOrNull [] =
      (aliasedField members leading name dictionaryOrNull []).map cutMapping := by
  refine aliasedField_cut hfield cutMapping_nil fun key value hcounting => ?_
  have hfound : members.either? leading name = some value := by
    rcases Option.or_eq_some_iff.mp hcounting with hleading | ⟨hleading, hname⟩
    · obtain ⟨_, hget, heq⟩ := Option.map_eq_some_iff.mp hleading
      cases heq
      rw [Json.Members.either?, hget, Option.some_or]
    · obtain ⟨_, hget, heq⟩ := Option.map_eq_some_iff.mp hname
      cases heq
      rw [Json.Members.either?, Option.map_eq_none_iff.mp hleading, hget, Option.none_or]
  rw [hbelow, hfound]
  cases value with
  | object inner => rfl
  | null => exact congrArg Except.ok cutMapping_nil.symm
  | bool | int | float | string | array => rfl

end

/-! ### Nodes and entries -/

/-- The mapping of an entry, with its one name as both names of a field. -/
theorem Json.mappingOfEntry_eq (members : Json.Members) :
    (Json.object members).mappingOfEntry =
      membersOf (members.either? "dependencies" "dependencies") := by
  rw [Members.either?, Option.or_self]
  rfl

theorem Package.check_cut (members : Json.Members) :
    Package.check (members.cut nodeFields (cutMapping (Json.object members).mappingOfNode)) =
      (Package.check members).map fun node => (node.1, cutMapping node.2) := by
  have hmapping : (Json.object members).mappingOfNode =
      Json.membersOf (members.either? "dependencies" "children") := rfl
  unfold Package.check
  rw [optionalField_eq_aliasedField, optionalField_eq_aliasedField,
    aliasedField_cut_of_blind (by decide) (text_withMembers _),
    aliasedField_cut_of_blind (by decide) (text_withMembers _),
    aliasedField_cut_of_blind (by decide) (optionalText_withMembers _),
    aliasedField_cut_of_mapping (by decide) (congrArg cutMapping hmapping)]
  -- the mapping is the last of the fields, so its change passes to the end of the record
  cases aliasedField members "from" "name" text "" <;>
    cases aliasedField members "version" "version" text "" <;>
    cases aliasedField members "path" "store_path" optionalText none <;>
    cases aliasedField members "dependencies" "children" dictionaryOrNull [] <;> rfl

theorem EntryHeader.check_cut (members : Json.Members) :
    EntryHeader.check (members.cut entryFields (cutMapping (Json.object members).mappingOfEntry)) =
      (EntryHeader.check members).map fun entry => (entry.1, cutMapping entry.2) := by
  unfold EntryHeader.check
  simp only [optionalField_eq_aliasedField]
  rw [aliasedField_cut_of_blind (by decide) (text_withMembers _),
    aliasedField_cut_of_blind (by decide) (text_withMembers _),
    aliasedField_cut_of_blind (by decide) (text_withMembers _),
    aliasedField_cut_of_blind (by decide) (flag_withMembers _),
    aliasedField_cut_of_mapping (by decide) (congrArg cutMapping (Json.mappingOfEntry_eq members))]
  cases aliasedField members "name" "name" text "" <;>
    cases aliasedField members "version" "version" text "" <;>
    cases aliasedField members "path" "path" text "" <;>
    cases aliasedField members "private" "private" flag false <;>
    cases aliasedField members "dependencies" "dependencies" dictionaryOrNull [] <;> rfl

/-! ### Reading -/

def TreeLevel.cut (level : TreeLevel) : TreeLevel :=
  level.map fun node => (node.1, node.2.1, cutMapping node.2.2)

theorem readNode_cut (key : String) (value : Json) :
    readNode key (cutNode value) =
      (readNode key value).map fun node => (node.1, cutMapping node.2) := by
  cases value with
  | object members =>
    simp only [cutNode, Json.cut, readNode, Package.check_cut]
    cases Package.check members <;> rfl
  | null | bool | int | float | string | array => rfl

theorem readLevel_cut (mapping : Json.Members) :
    readLevel (cutMapping mapping) = (readLevel mapping).map TreeLevel.cut := by
  rw [cutMapping_eq_map]
  induction mapping with
  | nil => rfl
  | cons member rest ih =>
    obtain ⟨key, value⟩ := member
    rw [List.map_cons, readLevel, readLevel, ih, readNode_cut]
    cases readNode key value with
    | error fault => rfl
    | ok node => cases readLevel rest <;> rfl

theorem TreeLevel.below_cut (level : TreeLevel) : level.cut.below = level.below.map cutMapping := by
  simp [TreeLevel.cut, TreeLevel.below]

/-- A stack of mappings that are cut down comes to the same levels, each cut down. -/
theorem readLevels_cut (pending : List Json.Members) :
    readLevels (pending.map cutMapping) = (readLevels pending).map (List.map TreeLevel.cut) := by
  induction pending using readLevels_induction with
  | empty =>
    rw [List.map_nil, readLevels_nil]
    rfl
  | faulty mapping rest fault hlevel =>
    have hcut := readLevel_cut mapping
    rw [hlevel] at hcut
    rw [List.map_cons, readLevels_cons_error hcut, readLevels_cons_error hlevel]
    rfl
  | level mapping rest level hlevel ih =>
    have hcut := readLevel_cut mapping
    rw [hlevel] at hcut
    rw [List.map_cons, readLevels_cons hcut, readLevels_cons hlevel, TreeLevel.below_cut,
      ← List.map_reverse, ← List.map_append, ih]
    cases readLevels (level.below.reverse ++ rest) <;> rfl

/-- What is put together from levels does not depend on the mappings below them. -/
theorem TreeLevel.assemble_cut (level : TreeLevel) (done : List Forest) :
    level.cut.assemble done = level.assemble done := by
  simp [TreeLevel.assemble, TreeLevel.cut, List.zipWith_map_left]

theorem readDependencies_cut (mapping : Json.Members) :
    readDependencies (cutMapping mapping) = readDependencies mapping := by
  have hlevels := readLevels_cut [mapping]
  rw [List.map_cons, List.map_nil] at hlevels
  rw [readDependencies, readDependencies, hlevels]
  cases readLevels [mapping] with
  | error fault => rfl
  | ok levels =>
    show Except.ok (assemble (levels.map TreeLevel.cut)) = Except.ok (assemble levels)
    have hfold : (levels.map TreeLevel.cut).foldr TreeLevel.assemble [] =
        levels.foldr TreeLevel.assemble [] := by
      rw [List.foldr_map]
      simp only [TreeLevel.assemble_cut]
    rw [assemble, assemble, hfold]

theorem readEntry_cut (index : Nat) (value : Json) :
    readEntry index (cutEntry value) = readEntry index value := by
  cases value with
  | object members =>
    simp only [cutEntry, Json.cut, readEntry, EntryHeader.check_cut]
    cases EntryHeader.check members with
    | invalid defects => rfl
    | valid entry =>
      obtain ⟨header, dependencies⟩ := entry
      show (readDependencies (cutMapping dependencies) >>= _) =
        (readDependencies dependencies >>= _)
      rw [readDependencies_cut]
  | null | bool | int | float | string | array => rfl

theorem readEntries_cut (index : Nat) (items : List Json) :
    readEntries index (items.map cutEntry) = readEntries index items := by
  induction items generalizing index with
  | nil => rfl
  | cons item rest ih => rw [List.map_cons, readEntries, readEntries, readEntry_cut, ih]

/-- Reading a report is reading the members of it that count. -/
theorem readReport_cut (value : Json) : readReport (cutReport value) = readReport value := by
  have hitems : reportItems (cutReport value) = (reportItems value).map cutEntry := by
    cases value <;> rfl
  rw [readReport, readReport, hitems, readEntries_cut]

end ProductionClosure

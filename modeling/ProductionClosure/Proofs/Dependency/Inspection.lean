import ProductionClosure.Proofs.Dependency.Reading

/-!
Which fault of a report is told. A report is looked through in a fixed order: the entries one after
another, each entry itself before its dependencies; of a mapping all values from first to last, then
what is below them from last to first, each of these mappings with everything below it before the
next one. The order is written down as a list, without any stack, together with what each look finds
on its own level. What the reader reports is the first finding of that list, so nothing that comes
later can change it.
-/

namespace ProductionClosure

open Schema

/-! ### What is looked at -/

inductive Subject where
  | entry (index : Nat)
  | dependency (key : String)
  deriving DecidableEq, Repr

def Subject.label : Subject → String
  | .entry index => "workspace entry " ++ toString index
  | .dependency key => "dependency " ++ Text.quoted key

/-- A message about a subject: either it is no object, or some of its fields are malformed. -/
inductive Subject.NamedBy (subject : Subject) : String → Prop where
  | notObject (kind : String) :
      NamedBy subject ("Expected an object for " ++ subject.label ++ ", got " ++ kind)
  | malformed (rejection : Rejection) :
      NamedBy subject ("Malformed " ++ subject.label ++ ": " ++ rejection.message)

/-- One look, and what it finds at fault without going deeper. -/
structure Inspection where
  subject : Subject
  fault? : Option ReportFault
  deriving DecidableEq, Repr

def Schema.Checked.defects? {α : Type} : Checked α → Option (List Defect)
  | .valid _ => none
  | .invalid defects => some defects

/-- What is wrong with a member of a mapping: the kind of its value before the fields of a node. -/
def dependencyFault? (key : String) : Json → Option ReportFault
  | .object members =>
    (Package.check members).defects?.map fun defects =>
      .badDependency key ⟨"DependencyNode", defects⟩
  | value => some (.dependencyNotObject key value.kindName)

/-- What is wrong with an entry: the kind of its value before its fields. -/
def entryFault? (index : Nat) : Json → Option ReportFault
  | .object members =>
    (EntryHeader.check members).defects?.map fun defects =>
      .badEntry index ⟨"WorkspaceEntry", defects⟩
  | value => some (.entryNotObject index value.kindName)

def inspectMember (member : String × Json) : Inspection :=
  ⟨.dependency member.1, dependencyFault? member.1 member.2⟩

/-! ### The order -/

def Json.membersOf : Option Json → Json.Members
  | some (.object members) => members
  | _ => []

def Json.mappingOfNode : Json → Json.Members
  | .object members => membersOf (Members.either? members "dependencies" "children")
  | _ => []

def Json.mappingOfEntry : Json → Json.Members
  | .object members => membersOf (Members.get? members "dependencies")
  | _ => []

theorem Json.sizeOf_membersOf_le {members : Json.Members} {found : Option Json}
    (h : ∀ value, found = some value → sizeOf value < sizeOf members) :
    sizeOf (membersOf found) ≤ sizeOf members := by
  unfold membersOf
  split
  · next inner =>
    have := h _ rfl
    simp only [Json.object.sizeOf_spec] at this
    omega
  · cases members with
    | nil => exact Nat.le_refl _
    | cons member rest =>
      simp only [List.nil.sizeOf_spec, List.cons.sizeOf_spec]
      omega

theorem Json.sizeOf_mappingOfNode_le (value : Json) :
    sizeOf value.mappingOfNode ≤ sizeOf value := by
  cases value with
  | object members =>
    have hle : sizeOf (membersOf (Members.either? members "dependencies" "children")) ≤
        sizeOf members := by
      refine sizeOf_membersOf_le fun value hvalue => ?_
      rcases Option.or_eq_some_iff.mp hvalue with hleading | ⟨-, hname⟩
      · exact sizeOf_lt_of_get? hleading
      · exact sizeOf_lt_of_get? hname
    simp only [mappingOfNode, Json.object.sizeOf_spec]
    omega
  | null | bool | int | float | string | array => simp [mappingOfNode]

theorem sizeOf_mappingOfNode_lt {mapping : Json.Members} {member : String × Json}
    (h : member ∈ mapping) : sizeOf member.2.mappingOfNode < sizeOf mapping := by
  have hmember := List.sizeOf_lt_of_mem h
  have hbelow := member.2.sizeOf_mappingOfNode_le
  obtain ⟨key, value⟩ := member
  simp only [Prod.mk.sizeOf_spec] at hmember hbelow ⊢
  omega

def inspectMapping (mapping : Json.Members) : List Inspection :=
  mapping.map inspectMember
    ++ mapping.reverse.flatMap fun member => inspectMapping member.2.mappingOfNode
  termination_by sizeOf mapping
  decreasing_by exact sizeOf_mappingOfNode_lt ‹_›

def inspectEntry (index : Nat) (value : Json) : List Inspection :=
  ⟨.entry index, entryFault? index value⟩ :: inspectMapping value.mappingOfEntry

def inspectEntries (index : Nat) : List Json → List Inspection
  | [] => []
  | value :: rest => inspectEntry index value ++ inspectEntries (index + 1) rest

def inspectReport (value : Json) : List Inspection := inspectEntries 0 (reportItems value)

def firstFault? (looks : List Inspection) : Option ReportFault := looks.findSome? Inspection.fault?

@[simp] theorem firstFault?_nil : firstFault? [] = none := rfl

@[simp] theorem firstFault?_cons (look : Inspection) (rest : List Inspection) :
    firstFault? (look :: rest) = look.fault?.or (firstFault? rest) := by
  rw [firstFault?, List.findSome?_cons]
  cases look.fault? <;> rfl

@[simp] theorem firstFault?_append (front back : List Inspection) :
    firstFault? (front ++ back) = (firstFault? front).or (firstFault? back) :=
  List.findSome?_append

/-- Where the faults of a reader are those that are found, nothing is found in what it reads. -/
theorem eq_none_of_ok {ε α : Type} {result : Except ε α} {found : Option ε} {value : α}
    (h : ∀ fault, result = .error fault ↔ found = some fault) (hok : result = .ok value) :
    found = none := by
  refine Option.eq_none_iff_forall_ne_some.mpr fun fault hfault => ?_
  rw [(h fault).mpr hfault] at hok
  cases hok

/-! ### One level -/

theorem Schema.Checked.toExcept_eq_error {α : Type} {checked : Checked α} {model : String}
    {rejection : Rejection} :
    checked.toExcept model = .error rejection ↔
      ∃ defects, checked.defects? = some defects ∧ rejection = ⟨model, defects⟩ := by
  cases checked <;> simp [Checked.toExcept, defects?, eq_comm]

theorem readNode_eq_error {key : String} {value : Json} {fault : ReportFault} :
    readNode key value = .error fault ↔ dependencyFault? key value = some fault := by
  cases value with
  | object members =>
    simp only [readNode, Outcome.mapError_eq_error, Checked.toExcept_eq_error, dependencyFault?,
      Option.map_eq_some_iff]
    constructor
    · rintro ⟨_, ⟨defects, hdefects, rfl⟩, hfault⟩
      exact ⟨defects, hdefects, hfault⟩
    · rintro ⟨defects, hdefects, hfault⟩
      exact ⟨_, ⟨defects, hdefects, rfl⟩, hfault⟩
  | null | bool | int | float | string | array => simp [readNode, dependencyFault?]

theorem dependencyFault?_of_readNode {key : String} {value : Json}
    {node : Package × Json.Members} (h : readNode key value = .ok node) :
    dependencyFault? key value = none :=
  eq_none_of_ok (fun _ => readNode_eq_error) h

theorem Json.membersOf_of_holds {found : Option Json} {members : Json.Members}
    (h : Holds IsMapping [] found members) : membersOf found = members := by
  cases h with
  | absent => rfl
  | given h => cases h <;> rfl

theorem mappingOfNode_of_readNode {key : String} {value : Json} {package : Package}
    {below : Json.Members} (h : readNode key value = .ok (package, below)) :
    value.mappingOfNode = below := by
  obtain ⟨members, rfl, hpackage⟩ := readNode_eq_ok.mp h
  exact Json.membersOf_of_holds hpackage.below

theorem readLevel_eq_error {mapping : Json.Members} {fault : ReportFault} :
    readLevel mapping = .error fault ↔ firstFault? (mapping.map inspectMember) = some fault := by
  fun_induction readLevel mapping with
  | case1 => simp
  | case2 key value rest found hnode =>
    simp [inspectMember, readNode_eq_error.mp hnode]
  | case3 key value rest package below hnode found hrest ih =>
    rw [hrest] at ih
    simpa [inspectMember, dependencyFault?_of_readNode hnode] using ih
  | case4 key value rest package below hnode level hrest ih =>
    rw [hrest] at ih
    simpa [inspectMember, dependencyFault?_of_readNode hnode] using ih

/-- The mappings below a level that could be read are those that the order goes on with. -/
theorem TreeLevel.below_of_readLevel {mapping : Json.Members} {level : TreeLevel}
    (h : readLevel mapping = .ok level) :
    level.below = mapping.map fun member => member.2.mappingOfNode := by
  induction mapping generalizing level with
  | nil =>
    cases h
    rfl
  | cons member rest ih =>
    obtain ⟨key, value⟩ := member
    obtain ⟨package, below, tail, hnode, htail, rfl⟩ := readLevel_cons_eq_ok.mp h
    rw [List.map_cons, mappingOfNode_of_readNode hnode, ← ih htail]
    rfl

/-! ### All levels -/

/-- A level without a fault leaves the looks at the mappings below it, last member first. -/
theorem firstFault?_of_readLevel {mapping : Json.Members} {level : TreeLevel}
    (h : readLevel mapping = .ok level) :
    firstFault? (inspectMapping mapping) =
      firstFault? (level.below.reverse.flatMap inspectMapping) := by
  have hnone : firstFault? (mapping.map inspectMember) = none :=
    eq_none_of_ok (fun _ => readLevel_eq_error) h
  rw [inspectMapping, firstFault?_append, hnone, Option.none_or, TreeLevel.below_of_readLevel h,
    ← List.map_reverse, List.flatMap_map]

theorem firstFault?_of_readLevel_error {mapping : Json.Members} {fault : ReportFault}
    (h : readLevel mapping = .error fault) : firstFault? (inspectMapping mapping) = some fault := by
  rw [inspectMapping, firstFault?_append, readLevel_eq_error.mp h, Option.some_or]

/-- The fault of a stack is the first one met when its mappings are looked through from the top. -/
theorem readLevels_eq_error {pending : List Json.Members} {fault : ReportFault} :
    readLevels pending = .error fault ↔
      firstFault? (pending.flatMap inspectMapping) = some fault := by
  induction pending using readLevels_induction with
  | empty => simp [readLevels_nil]
  | faulty mapping rest found hlevel =>
    rw [List.flatMap_cons, firstFault?_append, readLevels_cons_error hlevel,
      firstFault?_of_readLevel_error hlevel, Option.some_or, Except.error.injEq, Option.some.injEq]
  | level mapping rest level hlevel ih =>
    rw [List.flatMap_cons, firstFault?_append, readLevels_cons hlevel,
      firstFault?_of_readLevel hlevel, ← firstFault?_append, ← List.flatMap_append, ← ih]
    cases readLevels (level.below.reverse ++ rest) <;> simp [Except.map]

theorem readDependencies_eq_error {mapping : Json.Members} {fault : ReportFault} :
    readDependencies mapping = .error fault ↔
      firstFault? (inspectMapping mapping) = some fault := by
  have hlevels : readLevels [mapping] = .error fault ↔
      firstFault? ([mapping].flatMap inspectMapping) = some fault := readLevels_eq_error
  rw [List.flatMap_cons, List.flatMap_nil, List.append_nil] at hlevels
  rw [← hlevels, readDependencies]
  cases readLevels [mapping] <;> simp [Except.map]

/-! ### Entries -/

theorem readEntry_eq_error {index : Nat} {value : Json} {fault : ReportFault} :
    readEntry index value = .error fault ↔
      firstFault? (inspectEntry index value) = some fault := by
  rw [inspectEntry, firstFault?_cons]
  cases value with
  | object members =>
    rw [readEntry, Outcome.bind_eq_error, Outcome.mapError_eq_error]
    simp only [Outcome.mapError_eq_ok, Checked.toExcept_eq_ok]
    cases hcheck : EntryHeader.check members with
    | invalid defects => simp [entryFault?, hcheck, Checked.defects?, Checked.toExcept]
    | valid header =>
      obtain ⟨header, dependencies⟩ := header
      have hmapping : (Json.object members).mappingOfEntry = dependencies :=
        Json.membersOf_of_holds (EntryHeader.check_eq_valid.mp hcheck).dependencies
      simp only [entryFault?, hcheck, Checked.defects?, Option.map_none, Option.none_or, hmapping,
        ← readDependencies_eq_error]
      cases hforest : readDependencies dependencies <;>
        simp [Checked.toExcept, bind, Except.bind, pure, Except.pure, hforest]
  | null | bool | int | float | string | array => simp [readEntry, entryFault?]

theorem firstFault?_of_readEntry {index : Nat} {value : Json} {entry : WorkspaceEntry}
    (h : readEntry index value = .ok entry) : firstFault? (inspectEntry index value) = none :=
  eq_none_of_ok (fun _ => readEntry_eq_error) h

theorem readEntries_eq_error {index : Nat} {items : List Json} {fault : ReportFault} :
    readEntries index items = .error fault ↔
      firstFault? (inspectEntries index items) = some fault := by
  induction items generalizing index with
  | nil => simp [readEntries, inspectEntries]
  | cons item rest ih =>
    rw [readEntries, inspectEntries, firstFault?_append]
    cases hentry : readEntry index item with
    | error found =>
      rw [readEntry_eq_error.mp hentry]
      simp [bind, Except.bind]
    | ok entry =>
      rw [firstFault?_of_readEntry hentry, Option.none_or, ← ih]
      cases readEntries (index + 1) rest <;> simp [bind, Except.bind, pure, Except.pure]

theorem readReport_eq_error {value : Json} {fault : ReportFault} :
    readReport value = .error fault ↔ firstFault? (inspectReport value) = some fault :=
  readEntries_eq_error

theorem parseReport_of_decode {raw : String} {value : Json} (h : Json.decode raw = .ok value) :
    parseReport raw = readReport value := by
  rw [parseReport, h]
  rfl

/-! ### Messages -/

/-- What a look finds is told under the name of what was looked at. -/
def Inspection.Told (look : Inspection) : Prop :=
  ∀ fault, look.fault? = some fault → look.subject.NamedBy fault.message

theorem told_inspectMember (member : String × Json) : (inspectMember member).Told := by
  obtain ⟨key, value⟩ := member
  intro fault h
  cases value with
  | object members =>
    obtain ⟨defects, -, rfl⟩ := Option.map_eq_some_iff.mp h
    exact .malformed _
  | null | bool | int | float | string | array =>
    cases h
    exact .notObject _

theorem told_entry (index : Nat) (value : Json) :
    Inspection.Told ⟨.entry index, entryFault? index value⟩ := by
  intro fault h
  cases value with
  | object members =>
    obtain ⟨defects, -, rfl⟩ := Option.map_eq_some_iff.mp h
    exact .malformed _
  | null | bool | int | float | string | array =>
    cases h
    exact .notObject _

theorem told_inspectMapping (mapping : Json.Members) :
    ∀ look ∈ inspectMapping mapping, look.Told := by
  fun_induction inspectMapping mapping with
  | case1 mapping ih =>
    intro look hlook
    rcases List.mem_append.mp hlook with hlevel | hbelow
    · obtain ⟨member, -, rfl⟩ := List.mem_map.mp hlevel
      exact told_inspectMember member
    · obtain ⟨member, hmember, hlook⟩ := List.mem_flatMap.mp hbelow
      exact ih member (List.mem_reverse.mp hmember) look hlook

theorem told_inspectEntries (index : Nat) (items : List Json) :
    ∀ look ∈ inspectEntries index items, look.Told := by
  induction items generalizing index with
  | nil => exact fun look hlook => absurd hlook List.not_mem_nil
  | cons item rest ih =>
    intro look hlook
    rcases List.mem_append.mp hlook with hentry | hrest
    · rcases List.mem_cons.mp hentry with rfl | hbelow
      · exact told_entry index item
      · exact told_inspectMapping _ look hbelow
    · exact ih (index + 1) look hrest

/-- A report that is a value fails with the fault of the first look that finds one. The message
names what was looked at, and every other report that is looked through alike up to there fails with
the same fault, whatever comes after. -/
theorem report_names_first_fault {raw : String} {value : Json} (h : Json.decode raw = .ok value) :
    (∀ fault, parseReport raw = .error fault ↔
      ∃ before first after, inspectReport value = before ++ first :: after ∧
        (∀ look ∈ before, look.fault? = none) ∧ first.fault? = some fault) ∧
    ∀ before first after fault, inspectReport value = before ++ first :: after →
      (∀ look ∈ before, look.fault? = none) → first.fault? = some fault →
        first.subject.NamedBy fault.message ∧
        ∀ raw' value', Json.decode raw' = .ok value' →
          before ++ [first] <+: inspectReport value' → parseReport raw' = .error fault := by
  have hfails : ∀ raw value, Json.decode raw = .ok value → ∀ fault,
      parseReport raw = .error fault ↔
        ∃ before first after, inspectReport value = before ++ first :: after ∧
          (∀ look ∈ before, look.fault? = none) ∧ first.fault? = some fault := by
    intro raw value h fault
    rw [parseReport_of_decode h, readReport_eq_error, firstFault?, List.findSome?_eq_some_iff]
    simp only [and_comm]
  refine ⟨hfails raw value h, ?_⟩
  intro before first after fault horder hbefore hfirst
  have hmem : first ∈ inspectReport value := by
    rw [horder]
    exact List.mem_append_right before List.mem_cons_self
  refine ⟨told_inspectEntries _ _ first hmem fault hfirst, ?_⟩
  rintro raw' value' h' ⟨rest, hrest⟩
  refine (hfails raw' value' h' fault).mpr ⟨before, first, rest, ?_, hbefore, hfirst⟩
  rw [← hrest, List.append_assoc, List.singleton_append]

def faultyReport : Json :=
  .object [("dependencies", .object
    [("a", .object [("dependencies", .object [("x", .int 1)])]),
      ("b", .object [("dependencies", .object [("y", .int 2)])])])]

def faultyText : String :=
  "\x7b\"dependencies\": \x7b\"a\": \x7b\"dependencies\": \x7b\"x\": 1\x7d\x7d, " ++
    "\"b\": \x7b\"dependencies\": \x7b\"y\": 2\x7d\x7d\x7d\x7d"

def otherFaultyReport : Json :=
  .object [("dependencies", .object
    [("a", .object []),
      ("b", .object [("dependencies", .object [("y", .int 2), ("z", .null)])])])]

def otherFaultyText : String :=
  "\x7b\"dependencies\": \x7b\"a\": \x7b\x7d, " ++
    "\"b\": \x7b\"dependencies\": \x7b\"y\": 2, \"z\": null\x7d\x7d\x7d\x7d"

theorem decode_faultyText : Json.decode faultyText = .ok faultyReport := by
  cbv

theorem decode_otherFaultyText : Json.decode otherFaultyText = .ok otherFaultyReport := by
  cbv

def soundLooks : List Inspection :=
  [⟨.entry 0, none⟩, ⟨.dependency "a", none⟩, ⟨.dependency "b", none⟩]

def faultOfLastSibling : Inspection := ⟨.dependency "y", some (.dependencyNotObject "y" "int")⟩

theorem inspectReport_faultyReport :
    inspectReport faultyReport = soundLooks ++
      faultOfLastSibling :: [⟨.dependency "x", some (.dependencyNotObject "x" "int")⟩] := by
  cbv

theorem inspectReport_otherFaultyReport :
    inspectReport otherFaultyReport = soundLooks ++
      faultOfLastSibling :: [⟨.dependency "z", some (.dependencyNotObject "z" "NoneType")⟩] := by
  cbv

/-- What is below the last sibling comes first, and a report that differs behind that fault only is
told the same. -/
theorem last_sibling_is_told_first :
    Json.decode faultyText = .ok faultyReport ∧
      parseReport faultyText = .error (.dependencyNotObject "y" "int") ∧
      (Subject.dependency "y").NamedBy (ReportFault.dependencyNotObject "y" "int").message ∧
      Json.decode otherFaultyText = .ok otherFaultyReport ∧
      parseReport otherFaultyText = .error (.dependencyNotObject "y" "int") := by
  have hsound : ∀ look ∈ soundLooks, look.fault? = none := by decide
  obtain ⟨hfails, hfirst⟩ := report_names_first_fault decode_faultyText
  obtain ⟨hnamed, hother⟩ :=
    hfirst soundLooks faultOfLastSibling _ _ inspectReport_faultyReport hsound rfl
  refine ⟨decode_faultyText, ?_, hnamed, decode_otherFaultyText, ?_⟩
  · exact (hfails _).mpr ⟨_, _, _, inspectReport_faultyReport, hsound, rfl⟩
  · refine hother _ _ decode_otherFaultyText ?_
    rw [inspectReport_otherFaultyReport]
    exact ⟨[⟨.dependency "z", some (.dependencyNotObject "z" "NoneType")⟩], rfl⟩

end ProductionClosure

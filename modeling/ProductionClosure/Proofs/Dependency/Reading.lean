import Mathlib
import ProductionClosure.Proofs.Dependency.Decoding
import ProductionClosure.Proofs.Workspace

/-!
Reading a report is decoding it along its structure. The reader takes mappings from a stack, one
level at a time, and puts the levels together afterwards. What it comes to is said for any stack:
the levels that are read assemble to one forest for each waiting mapping, and they can be read
exactly if each of these mappings can be decoded. The mappings below a level go onto the stack with
the last one on top, and come off it in that order.
-/

namespace ProductionClosure

def TreeLevel.forest (level : TreeLevel) (children : List Forest) : Forest :=
  Forest.ofList (level.zipWith (fun node child => (node.1, node.2.1, child)) children)

theorem TreeLevel.assemble_eq (level : TreeLevel) (done : List Forest) :
    level.assemble done =
      level.forest (done.take level.length).reverse :: done.drop level.length := rfl

@[simp] theorem TreeLevel.length_below (level : TreeLevel) : level.below.length = level.length :=
  List.length_map _

/-! ### One level -/

theorem readLevel_cons_eq_ok {key : String} {value : Json} {rest : Json.Members}
    {level : TreeLevel} :
    readLevel ((key, value) :: rest) = .ok level ↔
      ∃ package below tail, readNode key value = .ok (package, below) ∧
        readLevel rest = .ok tail ∧ level = (key, package, below) :: tail := by
  cases hnode : readNode key value with
  | error fault => simp [readLevel, hnode]
  | ok node =>
    obtain ⟨package, below⟩ := node
    cases hrest : readLevel rest with
    | error fault => simp [readLevel, hnode, hrest]
    | ok tail =>
      simp only [readLevel, hnode, hrest, Except.ok.injEq, Prod.mk.injEq]
      constructor
      · rintro rfl
        exact ⟨_, _, _, ⟨rfl, rfl⟩, rfl, rfl⟩
      · rintro ⟨_, _, _, ⟨rfl, rfl⟩, rfl, rfl⟩
        rfl

/-- A mapping is decoded when its own level can be read and what is below it can be decoded. -/
theorem Forest.decodes_iff_level {forest : Forest} {mapping : Json.Members} :
    forest.Decodes mapping ↔ ∃ level children, readLevel mapping = .ok level ∧
      List.Forall₂ Forest.Decodes children level.below ∧ forest = level.forest children := by
  constructor
  · intro h
    induction h with
    | empty => exact ⟨[], [], rfl, .nil, rfl⟩
    | @node key package members below rest children siblings hpackage hchildren _ _ ih =>
      obtain ⟨level, others, hlevel, hothers, rfl⟩ := ih
      have hnode : readNode key (.object members) = .ok (package, below) :=
        readNode_eq_ok.mpr ⟨members, rfl, hpackage⟩
      exact ⟨_, _ :: others, readLevel_cons_eq_ok.mpr ⟨_, _, _, hnode, hlevel, rfl⟩,
        .cons hchildren hothers, rfl⟩
  · rintro ⟨level, children, hlevel, hchildren, rfl⟩
    induction mapping generalizing level children with
    | nil =>
      cases hlevel
      cases hchildren
      exact .empty
    | cons member rest ih =>
      obtain ⟨key, value⟩ := member
      obtain ⟨package, below, tail, hnode, htail, rfl⟩ := readLevel_cons_eq_ok.mp hlevel
      obtain ⟨members, rfl, hpackage⟩ := readNode_eq_ok.mp hnode
      cases hchildren with
      | cons hchild hothers => exact .node hpackage hchild (ih tail _ htail hothers)

/-! ### All levels -/

theorem readLevels_nil : readLevels [] = .ok [] := by
  rw [readLevels]

theorem readLevels_cons {mapping : Json.Members} {rest : List Json.Members} {level : TreeLevel}
    (h : readLevel mapping = .ok level) :
    readLevels (mapping :: rest) =
      (readLevels (level.below.reverse ++ rest)).map (level :: ·) := by
  rw [readLevels]
  split
  · next fault herror =>
    rw [h] at herror
    cases herror
  · next found hfound =>
    obtain rfl : level = found := Except.ok.inj (h.symm.trans hfound)
    cases readLevels (level.below.reverse ++ rest) <;> rfl

theorem readLevels_cons_error {mapping : Json.Members} {rest : List Json.Members}
    {fault : ReportFault} (h : readLevel mapping = .error fault) :
    readLevels (mapping :: rest) = .error fault := by
  rw [readLevels]
  split
  · next found herror =>
    obtain rfl : fault = found := Except.error.inj (h.symm.trans herror)
    rfl
  · next level hlevel =>
    rw [h] at hlevel
    cases hlevel

/-- Induction along the reading of a stack: the top one has a fault, or it leaves the stack and the
mappings below its level take its place, the last one on top. -/
@[elab_as_elim]
theorem readLevels_induction {motive : List Json.Members → Prop} (empty : motive [])
    (faulty : ∀ mapping rest fault, readLevel mapping = .error fault → motive (mapping :: rest))
    (level : ∀ mapping rest level, readLevel mapping = .ok level →
      motive (level.below.reverse ++ rest) → motive (mapping :: rest))
    (pending : List Json.Members) : motive pending := by
  induction hsize : totalSizeOf pending using Nat.strongRecOn generalizing pending with
  | ind size ih =>
    cases pending with
    | nil => exact empty
    | cons mapping rest =>
      cases hlevel : readLevel mapping with
      | error fault => exact faulty mapping rest fault hlevel
      | ok found =>
        -- the level has left the stack, and what lies below it is smaller
        have hsmaller : totalSizeOf (found.below.reverse ++ rest) < size := by
          have := totalSizeOf_below_lt hlevel
          simp only [totalSizeOf_append, totalSizeOf_reverse, totalSizeOf] at hsize ⊢
          omega
        exact level mapping rest found hlevel (ih _ hsmaller _ rfl)

/-- The forests for the mappings below a level lie on top of those for the rest of the stack, the
last one first. -/
theorem TreeLevel.forall₂_assemble {level : TreeLevel} {mapping : Json.Members}
    (h : readLevel mapping = .ok level) {done : List Forest} {rest : List Json.Members}
    (hdone : List.Forall₂ Forest.Decodes done (level.below.reverse ++ rest)) :
    List.Forall₂ Forest.Decodes (level.assemble done) (mapping :: rest) := by
  have habove := List.forall₂_take_append _ _ _ hdone
  have hrest := List.forall₂_drop_append _ _ _ hdone
  rw [List.length_reverse, length_below] at habove hrest
  rw [assemble_eq]
  refine .cons (Forest.decodes_iff_level.mpr ⟨level, _, h, ?_, rfl⟩) hrest
  rw [← List.forall₂_reverse_iff, List.reverse_reverse]
  exact habove

/-- A stack can be read exactly if each of its mappings can be decoded. -/
theorem readLevels_decodes (pending : List Json.Members) (forests : List Forest) :
    (∃ levels, readLevels pending = .ok levels ∧ levels.foldr TreeLevel.assemble [] = forests) ↔
      List.Forall₂ Forest.Decodes forests pending := by
  induction pending using readLevels_induction generalizing forests with
  | empty =>
    simp only [readLevels_nil, Except.ok.injEq, exists_eq_left', List.foldr_nil,
      List.forall₂_nil_right_iff]
    exact eq_comm
  | faulty mapping rest fault hlevel =>
    rw [readLevels_cons_error hlevel]
    refine iff_of_false (fun ⟨_, h, _⟩ => nomatch h) fun h => ?_
    obtain ⟨forest, others, hforest, -, rfl⟩ := List.forall₂_cons_right_iff.mp h
    obtain ⟨level, _, hfound, -⟩ := Forest.decodes_iff_level.mp hforest
    rw [hlevel] at hfound
    cases hfound
  | level mapping rest level hlevel ih =>
    rw [readLevels_cons hlevel]
    constructor
    · rintro ⟨levels, hlevels, rfl⟩
      cases hbelow : readLevels (level.below.reverse ++ rest) with
      | error fault =>
        rw [hbelow] at hlevels
        cases hlevels
      | ok lower =>
        rw [hbelow] at hlevels
        cases hlevels
        exact TreeLevel.forall₂_assemble hlevel ((ih _).mp ⟨lower, hbelow, rfl⟩)
    · intro h
      obtain ⟨forest, others, hforest, hothers, rfl⟩ := List.forall₂_cons_right_iff.mp h
      obtain ⟨found, children, hfound, hchildren, rfl⟩ := Forest.decodes_iff_level.mp hforest
      obtain rfl : level = found := Except.ok.inj (hlevel.symm.trans hfound)
      have hdone : List.Forall₂ Forest.Decodes (children.reverse ++ others)
          (level.below.reverse ++ rest) :=
        List.rel_append (List.forall₂_reverse_iff.mpr hchildren) hothers
      obtain ⟨lower, hlower, heq⟩ := (ih _).mpr hdone
      have hlength : level.length = children.reverse.length := by
        rw [List.length_reverse, hchildren.length_eq, TreeLevel.length_below]
      refine ⟨level :: lower, by rw [hlower]; rfl, ?_⟩
      rw [List.foldr_cons, heq, TreeLevel.assemble_eq, hlength, List.take_left, List.drop_left,
        List.reverse_reverse]

theorem readDependencies_eq_ok {mapping : Json.Members} {forest : Forest} :
    readDependencies mapping = .ok forest ↔ forest.Decodes mapping := by
  unfold readDependencies
  constructor
  · intro h
    cases hlevels : readLevels [mapping] with
    | error fault =>
      rw [hlevels] at h
      cases h
    | ok levels =>
      rw [hlevels] at h
      cases h
      have hdone := (readLevels_decodes [mapping] _).mp ⟨levels, hlevels, rfl⟩
      obtain ⟨only, others, honly, hothers, heq⟩ := List.forall₂_cons_right_iff.mp hdone
      rw [assemble, heq]
      exact honly
  · intro h
    obtain ⟨levels, hlevels, heq⟩ := (readLevels_decodes [mapping] [forest]).mpr (.cons h .nil)
    rw [hlevels]
    show Except.ok (assemble levels) = Except.ok forest
    rw [assemble, heq]
    rfl

/-! ### Entries -/

theorem readEntry_eq_ok {index : Nat} {value : Json} {entry : WorkspaceEntry} :
    readEntry index value = .ok entry ↔ entry.Decodes value := by
  cases value with
  | object members =>
    constructor
    · intro h
      obtain ⟨⟨header, dependencies⟩, hheader, h⟩ := Outcome.bind_eq_ok.mp h
      obtain ⟨forest, hforest, h⟩ := Outcome.bind_eq_ok.mp h
      cases h
      rw [Outcome.mapError_eq_ok, Schema.Checked.toExcept_eq_ok, EntryHeader.check_eq_valid]
        at hheader
      exact .object hheader (readDependencies_eq_ok.mp hforest)
    · rintro ⟨hheader, hforest⟩
      refine Outcome.bind_eq_ok.mpr ⟨(_, _), ?_, Outcome.bind_eq_ok.mpr
        ⟨_, readDependencies_eq_ok.mpr hforest, rfl⟩⟩
      rw [Outcome.mapError_eq_ok, Schema.Checked.toExcept_eq_ok, EntryHeader.check_eq_valid]
      exact hheader
  | null | bool | int | float | string | array =>
    refine iff_of_false (fun h => nomatch h) ?_
    intro h
    cases h

theorem readEntries_eq_ok {index : Nat} {items : List Json} {entries : List WorkspaceEntry} :
    readEntries index items = .ok entries ↔
      List.Forall₂ WorkspaceEntry.Decodes entries items := by
  induction items generalizing index entries with
  | nil =>
    rw [List.forall₂_nil_right_iff, readEntries, Except.ok.injEq]
    exact eq_comm
  | cons item rest ih =>
    rw [List.forall₂_cons_right_iff, readEntries]
    simp only [Outcome.bind_eq_ok, readEntry_eq_ok, ih]
    constructor
    · rintro ⟨entry, hentry, others, hothers, h⟩
      cases h
      exact ⟨entry, others, hentry, hothers, rfl⟩
    · rintro ⟨entry, others, hentry, hothers, rfl⟩
      exact ⟨entry, hentry, others, hothers, rfl⟩

theorem readReport_eq_ok {value : Json} {entries : List WorkspaceEntry} :
    readReport value = .ok entries ↔ EntriesDecode entries value := by
  rw [readReport, readEntries_eq_ok]
  cases value with
  | array items => exact ⟨.array, fun | .array h => h⟩
  | object members =>
    simp only [reportItems, List.forall₂_cons_right_iff, List.forall₂_nil_right_iff]
    constructor
    · rintro ⟨entry, _, hentry, rfl, rfl⟩
      exact .single hentry
    · rintro ⟨hentry⟩
      exact ⟨_, _, hentry, rfl, rfl⟩
  | null | bool | int | float | string =>
    refine iff_of_false ?_ (fun h => nomatch h)
    intro h
    obtain ⟨_, _, hentry, -⟩ := List.forall₂_cons_right_iff.mp h
    cases hentry

/-- A text that is a value is read as the value is. -/
theorem outcome_readEntriesOf_eq_ok {raw : String} {value : Json} (h : Json.decode raw = .ok value)
    {entries : List WorkspaceEntry} :
    (readEntriesOf raw).outcome = .ok entries ↔ readReport value = .ok entries := by
  rw [outcome_readEntriesOf, Outcome.mapError_eq_ok, parseReport, h]
  rfl

/-- A text that is a value is read as entries exactly if the value is a well-formed report, and then
the entries are those that the report stands for. -/
theorem readEntriesOf_eq_decoding {raw : String} {value : Json} (h : Json.decode raw = .ok value) :
    ((∃ entries, (readEntriesOf raw).outcome = .ok entries) ↔ ReportWellFormed value) ∧
      ∀ entries, (readEntriesOf raw).outcome = .ok entries ↔ EntriesDecode entries value := by
  have hread : ∀ entries, (readEntriesOf raw).outcome = .ok entries ↔ EntriesDecode entries value :=
    fun entries => (outcome_readEntriesOf_eq_ok h).trans readReport_eq_ok
  refine ⟨?_, hread⟩
  simp only [hread]
  exact exists_entriesDecode_iff

def nestedReport : String :=
  "\x7b\"private\": 1, \"dependencies\": \x7b" ++
    "\"a\": \x7b\"from\": \"x\", \"name\": \"y\", \"path\": \"/a\", \"dependencies\": " ++
      "\x7b\"b\": \x7b\"children\": \x7b\"c\": \x7b\"store_path\": \"/c\"\x7d\x7d\x7d\x7d\x7d, " ++
    "\"d\": \x7b\"path\": null, \"dependencies\": null\x7d\x7d\x7d"

def nestedMembers : Json.Members :=
  [("private", .int 1), ("dependencies", .object
    [("a", .object [("from", .string "x"), ("name", .string "y"), ("path", .string "/a"),
        ("dependencies", .object
          [("b", .object
            [("children", .object [("c", .object [("store_path", .string "/c")])])])])]),
      ("d", .object [("path", .null), ("dependencies", .null)])])]

def nestedEntry : WorkspaceEntry where
  name := ""
  version := ""
  path := ""
  isPrivate := true
  dependencies :=
    .node "a" ⟨"x", "", "/a"⟩
      (.node "b" ⟨"", "", none⟩ (.node "c" ⟨"", "", "/c"⟩ .empty .empty) .empty)
      (.node "d" ⟨"", "", none⟩ .empty .empty)

theorem decode_nestedReport : Json.decode nestedReport = .ok (.object nestedMembers) := by
  cbv

theorem nestedEntry_decodes : nestedEntry.Decodes (.object nestedMembers) := by
  have hheader : EntryHeader.Decodes ⟨"", "", "", true⟩ nestedMembers _ :=
    ⟨.absent, .absent, .absent, .given .one, .given (.object _)⟩
  refine .object hheader ?_
  refine .node ⟨.given (.string _), .absent, .given (.string _), .given (.object _)⟩ ?_ ?_
  · refine .node ⟨.absent, .absent, .absent, .given (.object _)⟩ ?_ .empty
    exact .node ⟨.absent, .absent, .given (.string _), .absent⟩ .empty .empty
  · exact .node ⟨.absent, .absent, .given .null, .given .null⟩ .empty .empty

/-- Of two names of a field the leading one counts, and null stands for nothing. -/
theorem nestedReport_decodes :
    Json.decode nestedReport = .ok (.object nestedMembers) ∧
      (readEntriesOf nestedReport).outcome = .ok [nestedEntry] :=
  ⟨decode_nestedReport,
    ((readEntriesOf_eq_decoding decode_nestedReport).2 _).mpr (.single nestedEntry_decodes)⟩

end ProductionClosure

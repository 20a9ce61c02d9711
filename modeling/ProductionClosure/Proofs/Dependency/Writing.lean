import ProductionClosure.Proofs.Dependency.Reading

/-!
Writing entries as reports. The package manager may write a node in many ways: a field has one of two
names, and what is not there may be left out, null, or an empty object. A spelling makes these choices
for every object by itself; whatever it chooses, the report stands for the entries that were written.
-/

namespace ProductionClosure

inductive FieldName where
  | leading
  | own
  deriving DecidableEq, Repr

def FieldName.of (choice : FieldName) (leading own : String) : String :=
  match choice with
  | .leading => leading
  | .own => own

@[simp] theorem FieldName.leading_of (leading own : String) :
    FieldName.leading.of leading own = leading := rfl

@[simp] theorem FieldName.own_of (leading own : String) : FieldName.own.of leading own = own := rfl

inductive MissingText where
  | leftOut
  | null
  deriving DecidableEq, Repr

inductive EmptyMapping where
  | leftOut
  | null
  | object
  deriving DecidableEq, Repr

def writtenField (key : String) (value : Option Json) : Json.Members :=
  (value.map fun value => (key, value)).toList

def MissingText.written (spelling : MissingText) : Option String → Option Json
  | some text => some (.string text)
  | none =>
    match spelling with
    | .leftOut => none
    | .null => some .null

def EmptyMapping.written (spelling : EmptyMapping) : Json.Members → Option Json
  | [] =>
    match spelling with
    | .leftOut => none
    | .null => some .null
    | .object => some (.object [])
  | members => some (.object members)

structure NodeSpelling where
  name : FieldName
  storePath : FieldName
  missingPath : MissingText
  children : FieldName
  noChildren : EmptyMapping
  deriving DecidableEq, Repr

def Package.written (package : Package) (spelling : NodeSpelling) (below : Json.Members) :
    Json.Members :=
  writtenField (spelling.name.of "from" "name") (some (.string package.name))
    ++ writtenField "version" (some (.string package.version))
    ++ writtenField (spelling.storePath.of "path" "store_path")
      (spelling.missingPath.written package.storePath)
    ++ writtenField (spelling.children.of "dependencies" "children")
      (spelling.noChildren.written below)

/-- A step through a forest: down to what is below a node, or on to the node behind it. -/
inductive Step where
  | below
  | behind
  deriving DecidableEq, Repr

/-- The choices for each node of a forest, by the way that leads to the node. -/
abbrev ForestSpelling := List Step → NodeSpelling

def ForestSpelling.after (spelling : ForestSpelling) (step : Step) : ForestSpelling :=
  fun way => spelling (step :: way)

def Forest.written : Forest → ForestSpelling → Json.Members
  | .empty, _ => []
  | .node key package children siblings, spelling =>
    (key, .object (package.written (spelling []) (children.written (spelling.after .below))))
      :: siblings.written (spelling.after .behind)

structure EntrySpelling where
  noDependencies : EmptyMapping
  dependencies : ForestSpelling

def EntryHeader.written (header : EntryHeader) (dependencies : Option Json) : Json.Members :=
  writtenField "name" (some (.string header.name))
    ++ writtenField "version" (some (.string header.version))
    ++ writtenField "path" (some (.string header.path))
    ++ writtenField "private" (some (.bool header.isPrivate))
    ++ writtenField "dependencies" dependencies

def WorkspaceEntry.written (entry : WorkspaceEntry) (spelling : EntrySpelling) : Json :=
  let header : EntryHeader := ⟨entry.name, entry.version, entry.path, entry.isPrivate⟩
  let dependencies := entry.dependencies.written spelling.dependencies
  .object (header.written (spelling.noDependencies.written dependencies))

/-- The objects of entries, each with choices of its own. -/
def writtenEntries (entries : List WorkspaceEntry) (spelling : Nat → EntrySpelling) : List Json :=
  entries.mapIdx fun index entry => entry.written (spelling index)

/-! ### Members that are found again -/

theorem Json.Members.get?_append (front back : Json.Members) (key : String) :
    Json.Members.get? (front ++ back) key = (front.get? key).or (back.get? key) :=
  List.lookup_append

theorem get?_writtenField (key other : String) (value : Option Json) :
    (writtenField key value).get? other = if other = key then value else none := by
  cases value with
  | none => simp [writtenField, Json.Members.get?]
  | some value =>
    by_cases h : other = key
    · simp [writtenField, Json.Members.get?, h]
    · simp [writtenField, Json.Members.get?, List.lookup_cons, beq_eq_false_iff_ne.mpr h, h]

theorem FieldName.ne_of {key leading own : String} (hleading : key ≠ leading) (hown : key ≠ own)
    (choice : FieldName) : key ≠ choice.of leading own := by
  cases choice <;> assumption

section

open Schema

theorem MissingText.holds_written (spelling : MissingText) (text : Option String) :
    Holds IsTextOrNull none (spelling.written text) text := by
  cases text with
  | some text => exact .given (.string text)
  | none =>
    cases spelling with
    | leftOut => exact .absent
    | null => exact .given .null

theorem EmptyMapping.holds_written (spelling : EmptyMapping) (members : Json.Members) :
    Holds IsMapping [] (spelling.written members) members := by
  cases members with
  | cons member rest => exact .given (.object _)
  | nil =>
    cases spelling with
    | leftOut => exact .absent
    | null => exact .given .null
    | object => exact .given (.object _)

end

/-! ### What was written is what is read -/

/-- The names of other fields do not get in the way of a field, whichever of its own is chosen. -/
theorem Package.decodes_written (package : Package) (spelling : NodeSpelling)
    (below : Json.Members) : package.Decodes (package.written spelling below) below where
  name := by
    have hfound : (package.written spelling below).either? "from" "name" =
        some (.string package.name) := by
      cases hname : spelling.name <;>
        simp [written, Json.Members.either?, Json.Members.get?_append, get?_writtenField,
          FieldName.ne_of, hname]
    rw [hfound]
    exact .given (.string _)
  version := by
    have hfound : (package.written spelling below).get? "version" =
        some (.string package.version) := by
      simp [written, Json.Members.get?_append, get?_writtenField, FieldName.ne_of]
    rw [hfound]
    exact .given (.string _)
  storePath := by
    have hfound : (package.written spelling below).either? "path" "store_path" =
        spelling.missingPath.written package.storePath := by
      cases hpath : spelling.storePath <;>
        simp [written, Json.Members.either?, Json.Members.get?_append, get?_writtenField,
          FieldName.ne_of, hpath]
    rw [hfound]
    exact spelling.missingPath.holds_written package.storePath
  below := by
    have hfound : (package.written spelling below).either? "dependencies" "children" =
        spelling.noChildren.written below := by
      cases hchildren : spelling.children <;>
        simp [written, Json.Members.either?, Json.Members.get?_append, get?_writtenField,
          FieldName.ne_of, hchildren]
    rw [hfound]
    exact spelling.noChildren.holds_written below

theorem Forest.decodes_written (forest : Forest) (spelling : ForestSpelling) :
    forest.Decodes (forest.written spelling) := by
  induction forest generalizing spelling with
  | empty => exact .empty
  | node key package children siblings ihChildren ihSiblings =>
    exact .node (package.decodes_written (spelling []) _) (ihChildren (spelling.after .below))
      (ihSiblings (spelling.after .behind))

theorem EntryHeader.decodes_written (header : EntryHeader) (spelling : EmptyMapping)
    (dependencies : Json.Members) :
    header.Decodes (header.written (spelling.written dependencies)) dependencies where
  name := by
    have hfound : (header.written (spelling.written dependencies)).get? "name" =
        some (.string header.name) := by
      simp [written, Json.Members.get?_append, get?_writtenField]
    rw [hfound]
    exact .given (.string _)
  version := by
    have hfound : (header.written (spelling.written dependencies)).get? "version" =
        some (.string header.version) := by
      simp [written, Json.Members.get?_append, get?_writtenField]
    rw [hfound]
    exact .given (.string _)
  path := by
    have hfound : (header.written (spelling.written dependencies)).get? "path" =
        some (.string header.path) := by
      simp [written, Json.Members.get?_append, get?_writtenField]
    rw [hfound]
    exact .given (.string _)
  isPrivate := by
    have hfound : (header.written (spelling.written dependencies)).get? "private" =
        some (.bool header.isPrivate) := by
      simp [written, Json.Members.get?_append, get?_writtenField]
    rw [hfound]
    exact .given (.bool _)
  dependencies := by
    have hfound : (header.written (spelling.written dependencies)).get? "dependencies" =
        spelling.written dependencies := by
      simp [written, Json.Members.get?_append, get?_writtenField]
    rw [hfound]
    exact spelling.holds_written dependencies

theorem WorkspaceEntry.decodes_written (entry : WorkspaceEntry) (spelling : EntrySpelling) :
    entry.Decodes (entry.written spelling) :=
  .object (EntryHeader.decodes_written ⟨entry.name, entry.version, entry.path, entry.isPrivate⟩
    spelling.noDependencies _) (entry.dependencies.decodes_written spelling.dependencies)

theorem forall₂_decodes_written (entries : List WorkspaceEntry) (spelling : Nat → EntrySpelling) :
    List.Forall₂ WorkspaceEntry.Decodes entries (writtenEntries entries spelling) := by
  induction entries generalizing spelling with
  | nil => exact .nil
  | cons entry rest ih =>
    rw [writtenEntries, List.mapIdx_cons]
    exact .cons (entry.decodes_written (spelling 0)) (ih fun index => spelling (index + 1))

theorem readReport_writtenEntries (entries : List WorkspaceEntry) (spelling : Nat → EntrySpelling) :
    readReport (.array (writtenEntries entries spelling)) = .ok entries :=
  readReport_eq_ok.mpr (.array (forall₂_decodes_written entries spelling))

theorem WorkspaceEntry.readReport_written (entry : WorkspaceEntry) (spelling : EntrySpelling) :
    readReport (entry.written spelling) = .ok [entry] :=
  readReport_eq_ok.mpr (.single (entry.decodes_written spelling))

/-- However entries are spelled, the array of their objects is read as these entries, at any depth,
and for a single entry its object alone will do. So is every text that decodes to one of the two. -/
theorem readEntriesOf_written (entries : List WorkspaceEntry) (spelling : Nat → EntrySpelling) :
    readReport (.array (writtenEntries entries spelling)) = .ok entries ∧
      (∀ entry, entries = [entry] → readReport (entry.written (spelling 0)) = .ok entries) ∧
      ∀ raw,
        (Json.decode raw = .ok (.array (writtenEntries entries spelling)) ∨
          ∃ entry, entries = [entry] ∧ Json.decode raw = .ok (entry.written (spelling 0))) →
        (readEntriesOf raw).outcome = .ok entries := by
  have harray := readReport_writtenEntries entries spelling
  have hsingle : ∀ entry, entries = [entry] →
      readReport (entry.written (spelling 0)) = .ok entries := by
    rintro entry rfl
    exact entry.readReport_written (spelling 0)
  refine ⟨harray, hsingle, fun raw h => ?_⟩
  rcases h with hdecoded | ⟨entry, hentry, hdecoded⟩
  · exact (outcome_readEntriesOf_eq_ok hdecoded).mpr harray
  · exact (outcome_readEntriesOf_eq_ok hdecoded).mpr (hsingle entry hentry)

def spelledEntry : WorkspaceEntry where
  name := "w"
  version := ""
  path := ""
  isPrivate := true
  dependencies := .node "a" ⟨"x", "", "/a"⟩ (.node "b" ⟨"y", "", none⟩ .empty .empty) .empty

/-- The outer package with the names of reports and the inner one with names of its own; below the
inner one null stands for nothing. -/
def mixedSpelling : EntrySpelling where
  noDependencies := .leftOut
  dependencies way :=
    if way = [] then ⟨.leading, .leading, .leftOut, .leading, .leftOut⟩
    else ⟨.own, .own, .null, .own, .null⟩

def spelledText : String :=
  "\x7b\"name\":\"w\",\"version\":\"\",\"path\":\"\",\"private\":true,\"dependencies\":" ++
    "\x7b\"a\":\x7b\"from\":\"x\",\"version\":\"\",\"path\":\"/a\",\"dependencies\":" ++
      "\x7b\"b\":\x7b\"name\":\"y\",\"version\":\"\",\"store_path\":null,\"children\":null" ++
        "\x7d\x7d\x7d\x7d\x7d"

def bareEntry : WorkspaceEntry := ⟨"", "", "", false, .empty⟩

def bareText : String := "\x7b\"name\":\"\",\"version\":\"\",\"path\":\"\",\"private\":false\x7d"

theorem decode_bareText : Json.decode bareText = .ok (bareEntry.written mixedSpelling) := by
  cbv

theorem decode_spelledArray :
    Json.decode ("[" ++ bareText ++ "," ++ spelledText ++ "]") =
      .ok (.array (writtenEntries [bareEntry, spelledEntry] fun _ => mixedSpelling)) := by
  cbv

/-- Names of both kinds within one report, and one of its entries without the array around it. -/
theorem mixed_names_are_read :
    (readEntriesOf ("[" ++ bareText ++ "," ++ spelledText ++ "]")).outcome =
        .ok [bareEntry, spelledEntry] ∧
      (readEntriesOf bareText).outcome = .ok [bareEntry] :=
  ⟨(readEntriesOf_written _ _).2.2 _ (Or.inl decode_spelledArray),
    (readEntriesOf_written _ fun _ => mixedSpelling).2.2 _ (Or.inr ⟨_, rfl, decode_bareText⟩)⟩

end ProductionClosure

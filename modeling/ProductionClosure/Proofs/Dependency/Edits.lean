import ProductionClosure.Proofs.Dependency.Essence

/-!
What a report may hold besides. Members under keys that are not known, the order of the members of
an object, and the name of a field beside its leading name can be changed anywhere in a report, in
its entries and in its nodes at every depth. No such edit touches the members that count, so the
report is read as before: the same entries or the same message, and the same paths from it.
-/

namespace ProductionClosure

/-! ### Edits -/

def nodeKeys : List String :=
  ["from", "name", "version", "path", "store_path", "dependencies", "children"]

def nodeAliases : List (String × String) :=
  [("from", "name"), ("path", "store_path"), ("dependencies", "children")]

def entryKeys : List String := ["name", "version", "path", "private", "dependencies"]

/-- One member more under a key that is not known, or the same members in another order. -/
inductive MembersEdit (known : List String) : Json.Members → Json.Members → Prop where
  | unknown {front back : Json.Members} {key : String} {value : Json} (hkey : key ∉ known) :
      MembersEdit known (front ++ back) (front ++ (key, value) :: back)
  | permuted {members others : Json.Members} (hkeys : (members.map Prod.fst).Nodup)
      (h : members.Perm others) : MembersEdit known members others

/-- Where a node stands: in a mapping under a key of the object above it. -/
structure NodePlace where
  front : Json.Members
  key : String
  before : Json.Members
  name : String
  after : Json.Members
  back : Json.Members

def NodePlace.fill (place : NodePlace) (members : Json.Members) : Json.Members :=
  place.front ++
    (place.key, .object (place.before ++ (place.name, .object members) :: place.after)) ::
      place.back

/-- An edit of the members of a node, or of a node at any depth below it. -/
inductive NodeEdit : Json.Members → Json.Members → Prop where
  | outside {members others : Json.Members} (h : MembersEdit nodeKeys members others) :
      NodeEdit members others
  | overruled {front back : Json.Members} {leading name : String} {value : Json}
      (halias : (leading, name) ∈ nodeAliases)
      (hgiven : (Json.Members.get? (front ++ back) leading).isSome) :
      NodeEdit (front ++ back) (front ++ (name, value) :: back)
  | deeper (place : NodePlace) {members others : Json.Members} (h : NodeEdit members others) :
      NodeEdit (place.fill members) (place.fill others)

inductive EntryEdit : Json.Members → Json.Members → Prop where
  | outside {members others : Json.Members} (h : MembersEdit entryKeys members others) :
      EntryEdit members others
  | deeper (place : NodePlace) {members others : Json.Members} (h : NodeEdit members others) :
      EntryEdit (place.fill members) (place.fill others)

/-- An edit of one entry of a report. To take a member away is to undo such an edit, and to change
it is to take it away and to put another one in its place. -/
inductive ReportEdit : Json → Json → Prop where
  | single {members others : Json.Members} (h : EntryEdit members others) :
      ReportEdit (.object members) (.object others)
  | item {before after : List Json} {members others : Json.Members} (h : EntryEdit members others) :
      ReportEdit (.array (before ++ .object members :: after))
        (.array (before ++ .object others :: after))

/-! ### Members that count alike -/

/-- A value as a field of a node sees it: a mapping is known by its nodes. -/
def cutValue (value : Json) : Json := value.withMembers (cutMapping (Json.membersOf (some value)))

/-- For each of some fields the same member counts, up to what does not count below it. -/
def CountAlike (fields : List (String × String)) (members others : Json.Members) : Prop :=
  ∀ field ∈ fields, (members.counting field).map (Prod.map id cutValue) =
    (others.counting field).map (Prod.map id cutValue)

theorem countAlike_of_get? {fields : List (String × String)} {members others : Json.Members}
    (h : ∀ field ∈ fields, ∀ key, key = field.1 ∨ key = field.2 →
      (members.get? key).map cutValue = (others.get? key).map cutValue) :
    CountAlike fields members others := by
  have hmember : ∀ (m : Json.Members) key, (m.member? key).map (Prod.map id cutValue) =
      ((m.get? key).map cutValue).map fun value => (key, value) := by
    intro m key
    simp [Json.Members.member?, Function.comp_def]
  intro field hfield
  simp only [Json.Members.counting, Option.map_or, hmember, h field hfield _ (Or.inl rfl),
    h field hfield _ (Or.inr rfl)]

section

variable {members others : Json.Members}

theorem CountAlike.cut {fields : List (String × String)} (h : CountAlike fields members others)
    (below : Json.Members) :
    Json.Members.cut members fields below = Json.Members.cut others fields below := by
  have hkept : ∀ m : Json.Members, Json.Members.cut m fields below =
      (fields.filterMap fun field => (m.counting field).map (Prod.map id cutValue)).map
        fun member => (member.1, member.2.withMembers below) := by
    intro m
    have hseen : ∀ value : Json, (cutValue value).withMembers below = value.withMembers below := by
      intro value
      cases value <;> rfl
    rw [Json.Members.cut, ← List.map_filterMap, List.map_map]
    simp only [Function.comp_def, Prod.map_fst, Prod.map_snd, id, hseen]
  rw [hkept, hkept, List.filterMap_congr h]

/-- What is below a field is known when the member that counts for it is. -/
theorem membersOf_either? (members : Json.Members) (leading name : String) :
    cutMapping (Json.membersOf (members.either? leading name)) =
      Json.membersOf
        (((members.counting (leading, name)).map (Prod.map id cutValue)).map Prod.snd) := by
  have heither : members.either? leading name =
      (members.counting (leading, name)).map Prod.snd := by
    simp [Json.Members.either?, Json.Members.counting, Json.Members.member?, Option.map_or,
      Function.comp_def]
  rw [heither]
  cases members.counting (leading, name) with
  | none => exact cutMapping_nil
  | some member =>
    obtain ⟨key, value⟩ := member
    cases value with
    | object => rfl
    | null | bool | int | float | string | array => exact cutMapping_nil

theorem CountAlike.cutNode (h : CountAlike nodeFields members others) :
    cutNode (.object members) = cutNode (.object others) := by
  have hbelow : cutMapping (Json.object members).mappingOfNode =
      cutMapping (Json.object others).mappingOfNode := by
    rw [Json.mappingOfNode, Json.mappingOfNode, membersOf_either?, membersOf_either?,
      h _ (by decide)]
  simp only [ProductionClosure.cutNode, Json.cut, hbelow, h.cut]

theorem CountAlike.cutEntry (h : CountAlike entryFields members others) :
    cutEntry (.object members) = cutEntry (.object others) := by
  have hbelow : cutMapping (Json.object members).mappingOfEntry =
      cutMapping (Json.object others).mappingOfEntry := by
    rw [Json.mappingOfEntry_eq, Json.mappingOfEntry_eq, membersOf_either?, membersOf_either?,
      h _ (by decide)]
  simp only [ProductionClosure.cutEntry, Json.cut, hbelow, h.cut]

end

/-! ### Edits leave what counts -/

/-- Looking up a key passes over a member under another key. -/
theorem Json.Members.get?_skip {front back : Json.Members} {own key : String} {value : Json}
    (h : key ≠ own) :
    Json.Members.get? (front ++ (own, value) :: back) key =
      Json.Members.get? (front ++ back) key := by
  rw [get?, get?, List.lookup_append, List.lookup_append, List.lookup_cons,
    beq_eq_false_iff_ne.mpr h]

theorem MembersEdit.get?_eq {known : List String} {members others : Json.Members}
    (h : MembersEdit known members others) {key : String} (hkey : key ∈ known) :
    members.get? key = others.get? key := by
  cases h with
  | unknown hother =>
    refine (Json.Members.get?_skip ?_).symm
    rintro rfl
    exact hother hkey
  | permuted hkeys h =>
    have hothers : (others.map Prod.fst).Nodup := (h.map Prod.fst).nodup_iff.mp hkeys
    refine Option.ext fun value => ?_
    rw [Json.Members.get?, Json.Members.get?, Table.lookup_eq_some_iff_mem hkeys,
      Table.lookup_eq_some_iff_mem hothers, h.mem_iff]

theorem MembersEdit.countAlike {fields : List (String × String)} {known : List String}
    {members others : Json.Members} (h : MembersEdit known members others)
    (hknown : ∀ field ∈ fields, field.1 ∈ known ∧ field.2 ∈ known) :
    CountAlike fields members others := by
  refine countAlike_of_get? fun field hfield key hkey => ?_
  rcases hkey with rfl | rfl
  · rw [h.get?_eq (hknown field hfield).1]
  · rw [h.get?_eq (hknown field hfield).2]

/-- A member beside the leading one of its field does not count. -/
theorem countAlike_of_overruled {front back : Json.Members} {leading name : String} {value : Json}
    (halias : (leading, name) ∈ nodeAliases)
    (hgiven : (Json.Members.get? (front ++ back) leading).isSome) :
    CountAlike nodeFields (front ++ back) (front ++ (name, value) :: back) := by
  have hapart : ∀ names ∈ nodeAliases, names.1 ≠ names.2 ∧ ∀ field ∈ nodeFields,
      field = names ∨ field.1 ≠ names.2 ∧ field.2 ≠ names.2 := by decide
  obtain ⟨hne, hfields⟩ := hapart _ halias
  intro field hfield
  congr 1
  rcases hfields field hfield with rfl | ⟨hleading, hname⟩
  · obtain ⟨given, hgiven⟩ := Option.isSome_iff_exists.mp hgiven
    simp only [Json.Members.counting, Json.Members.member?, Json.Members.get?_skip hne, hgiven,
      Option.map_some, Option.some_or]
  · simp only [Json.Members.counting, Json.Members.member?, Json.Members.get?_skip hleading,
      Json.Members.get?_skip hname]

/-- Two objects that differ in one node below them hold alike values when the nodes are alike. -/
theorem NodePlace.get?_fill (place : NodePlace) {members others : Json.Members}
    (h : cutNode (.object members) = cutNode (.object others)) (key : String) :
    ((place.fill members).get? key).map cutValue = ((place.fill others).get? key).map cutValue := by
  have hvalue : ∀ m : Json.Members,
      cutValue (.object (place.before ++ (place.name, .object m) :: place.after)) =
        .object (cutMapping place.before ++
          (place.name, cutNode (.object m)) :: cutMapping place.after) := by
    intro m
    simp only [cutValue, Json.withMembers, Json.membersOf, cutMapping_eq_map, List.map_append,
      List.map_cons]
  simp only [fill, Json.Members.get?, List.lookup_append, List.lookup_cons, Option.map_or]
  cases key == place.key with
  | false => rfl
  | true => simp only [Option.map_some, hvalue, h]

theorem NodeEdit.cutNode_eq {members others : Json.Members} (h : NodeEdit members others) :
    cutNode (.object members) = cutNode (.object others) := by
  induction h with
  | outside h =>
    have hknown : ∀ field ∈ nodeFields, field.1 ∈ nodeKeys ∧ field.2 ∈ nodeKeys := by decide
    exact (h.countAlike hknown).cutNode
  | overruled halias hgiven => exact (countAlike_of_overruled halias hgiven).cutNode
  | deeper place _ ih => exact (countAlike_of_get? fun _ _ key _ => place.get?_fill ih key).cutNode

theorem EntryEdit.cutEntry_eq {members others : Json.Members} (h : EntryEdit members others) :
    cutEntry (.object members) = cutEntry (.object others) := by
  cases h with
  | outside h =>
    have hknown : ∀ field ∈ entryFields, field.1 ∈ entryKeys ∧ field.2 ∈ entryKeys := by decide
    exact (h.countAlike hknown).cutEntry
  | deeper place h =>
    exact (countAlike_of_get? fun _ _ key _ => place.get?_fill h.cutNode_eq key).cutEntry

theorem ReportEdit.cutReport_eq {value other : Json} (h : ReportEdit value other) :
    cutReport value = cutReport other := by
  cases h with
  | single h => exact h.cutEntry_eq
  | item h =>
    simp only [cutReport, List.map_append, List.map_cons, h.cutEntry_eq]

/-- Reports that differ by edits are read alike. -/
theorem readReport_eq_of_edits {value other : Json} (h : Relation.EqvGen ReportEdit value other) :
    readReport value = readReport other := by
  have hcut : cutReport value = cutReport other := by
    induction h with
    | rel _ _ h => exact h.cutReport_eq
    | refl => rfl
    | symm _ _ _ ih => exact ih.symm
    | trans _ _ _ _ _ ihfirst ihsecond => exact ihfirst.trans ihsecond
  rw [← readReport_cut value, hcut, readReport_cut]

/-! ### Runs -/

/-- The message on a fault does not depend on the report that has it. -/
theorem message_ofReportFault (raw raw' : String) (fault : ReportFault) :
    (Failure.ofReportFault raw fault).message = (Failure.ofReportFault raw' fault).message := by
  cases fault with
  | notJson failure => cases failure <;> rfl
  | entryNotObject | badEntry | dependencyNotObject | badDependency => rfl

/-- Edits outside of what counts change nothing: two reports that differ by them are read as the
same entries or told by the same message, and what is installed and what a folder comes to is the
same whichever of them the package manager prints. -/
theorem unread_data_cannot_interfere {value other : Json}
    (h : Relation.EqvGen ReportEdit value other) {raw raw' : String}
    (hraw : Json.decode raw = .ok value) (hraw' : Json.decode raw' = .ok other) :
    parseReport raw = parseReport raw' ∧
    (readEntriesOf raw).outcome.mapError Failure.message =
      (readEntriesOf raw').outcome.mapError Failure.message ∧
    ∀ (world world' : World) (config : Config) (folder : Path), world.files = world'.files →
      (queryTree world config.packageManager folder.toString).outcome = .ok raw →
      (queryTree world' config.packageManager folder.toString).outcome = .ok raw' →
        (∀ paths, Installed world config folder paths ↔ Installed world' config folder paths) ∧
        (resolveWorkspace world config folder).outcome.mapError Failure.message =
          (resolveWorkspace world' config folder).outcome.mapError Failure.message := by
  have hparse : parseReport raw = parseReport raw' := by
    rw [parseReport_of_decode hraw, parseReport_of_decode hraw', readReport_eq_of_edits h]
  refine ⟨hparse, ?_, ?_⟩
  · rw [outcome_readEntriesOf, outcome_readEntriesOf, hparse]
    cases parseReport raw' with
    | ok entries => rfl
    | error fault =>
      exact congrArg Except.error (message_ofReportFault raw raw' fault)
  · intro world world' config folder hfiles hquery hquery'
    constructor
    · intro paths
      simp only [Installed, hquery, hquery', Except.ok.injEq, exists_and_left, exists_eq_left',
        hparse]
    · cases hentries : parseReport raw with
      | ok entries =>
        rw [outcome_resolveWorkspace_of_entries hquery hentries,
          outcome_resolveWorkspace_of_entries hquery' (hparse.symm.trans hentries), hfiles]
      | error fault =>
        rw [outcome_resolveWorkspace_of_unreadable hquery (outcome_readEntriesOf_of_fault hentries),
          outcome_resolveWorkspace_of_unreadable hquery'
            (outcome_readEntriesOf_of_fault (hparse.symm.trans hentries))]
        exact congrArg Except.error (message_ofReportFault raw raw' fault)

def sparseText : String := "\x7b\"dependencies\":\x7b\"a\":\x7b\"path\":\"/a\"\x7d\x7d\x7d"

/-- The same report with more in the entry and in the node, the path behind it, and a store path of
the wrong kind beside the path. -/
def ladenText : String :=
  "\x7b\"x\":1,\"dependencies\":\x7b\"a\":" ++
    "\x7b\"store_path\":2,\"y\":null,\"path\":\"/a\"\x7d\x7d\x7d"

def onlyPlace : NodePlace := ⟨[], "dependencies", [], "a", [], []⟩

def sparseReport : Json := .object (onlyPlace.fill [("path", .string "/a")])

def ladenReport : Json :=
  .object (("x", .int 1) ::
    onlyPlace.fill [("store_path", .int 2), ("y", .null), ("path", .string "/a")])

theorem ladenReport_of_sparseReport : Relation.EqvGen ReportEdit sparseReport ladenReport := by
  have hadded : NodeEdit [("path", .string "/a")] [("path", .string "/a"), ("y", .null)] :=
    .outside (@MembersEdit.unknown nodeKeys [_] [] "y" .null (by decide))
  have hswapped : NodeEdit [("path", .string "/a"), ("y", .null)]
      [("y", .null), ("path", .string "/a")] :=
    .outside (.permuted (by decide) (.swap _ _ _))
  have hoverruled : NodeEdit [("y", .null), ("path", .string "/a")]
      [("store_path", .int 2), ("y", .null), ("path", .string "/a")] :=
    @NodeEdit.overruled [] _ "path" "store_path" (.int 2) (by decide) (by decide)
  have houter : EntryEdit
      (onlyPlace.fill [("store_path", .int 2), ("y", .null), ("path", .string "/a")])
      (("x", .int 1) ::
        onlyPlace.fill [("store_path", .int 2), ("y", .null), ("path", .string "/a")]) :=
    .outside (@MembersEdit.unknown entryKeys [] _ "x" (.int 1) (by decide))
  refine .trans _ _ _ (.rel _ _ (.single (.deeper onlyPlace hadded))) ?_
  refine .trans _ _ _ (.rel _ _ (.single (.deeper onlyPlace hswapped))) ?_
  refine .trans _ _ _ (.rel _ _ (.single (.deeper onlyPlace hoverruled))) ?_
  exact .rel _ _ (.single houter)

def printingWorld (text : String) : World where
  files := ⟨[], "/"⟩
  tools := { listings := [("/", .ended (some (Text.encodeUtf8 text)) none 0)] }
  environment := []

theorem outcome_queryTree_printing (config : Config) {text : String}
    (h : printedText (Text.encodeUtf8 text) = text) :
    (queryTree (printingWorld text) config.packageManager (Path.mk .root []).toString).outcome =
      .ok text := by
  have hroot : (Path.mk .root []).toString = "/" := by decide
  have hfolder : (printingWorld text).files.isDirectoryText "/" = true :=
    FileSystem.isDirectoryText_of_status_ok (FileSystem.status_root _)
  have hlisting : (printingWorld text).tools.listing "/" =
      .ended (some (Text.encodeUtf8 text)) none 0 := rfl
  rw [hroot, outcome_queryTree_of_ended hfolder hlisting, Option.getD_some, h]

/-- The store path of the wrong kind is not noticed, and the folder comes to the same. -/
theorem ladenText_is_read_as_sparseText :
    Json.decode sparseText = .ok sparseReport ∧ Json.decode ladenText = .ok ladenReport ∧
      parseReport sparseText = parseReport ladenText ∧ ∀ config : Config,
        (resolveWorkspace (printingWorld sparseText) config ⟨.root, []⟩).outcome.mapError
            Failure.message =
          (resolveWorkspace (printingWorld ladenText) config ⟨.root, []⟩).outcome.mapError
            Failure.message := by
  have hsparse : Json.decode sparseText = .ok sparseReport := by cbv
  have hladen : Json.decode ladenText = .ok ladenReport := by cbv
  have hprinted : printedText (Text.encodeUtf8 sparseText) = sparseText := by cbv
  have hprinted' : printedText (Text.encodeUtf8 ladenText) = ladenText := by cbv
  obtain ⟨hparse, -, hruns⟩ :=
    unread_data_cannot_interfere ladenReport_of_sparseReport hsparse hladen
  refine ⟨hsparse, hladen, hparse, fun config => ?_⟩
  exact (hruns (printingWorld sparseText) (printingWorld ladenText) config _ rfl
    (outcome_queryTree_printing config hprinted) (outcome_queryTree_printing config hprinted')).2

end ProductionClosure

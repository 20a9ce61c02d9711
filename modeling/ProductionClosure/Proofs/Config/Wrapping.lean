import Mathlib
import ProductionClosure.Proofs.Config.Loading
import ProductionClosure.Proofs.FileSystem.Outline

/-!
Settings with and without a key around them. A file may hold its record of settings as the whole of
its document or under one key, and the settings are the same, wherever their nodes stand in the two
documents. A value that is no record is refused in both forms, but for one case: under the key an
empty list, an empty set, an empty text, zero or "no" passes for nothing at all.
-/

namespace ProductionClosure

namespace Yaml

/-! ### The same value in two documents -/

inductive ContentsAlike (related : Value → Value → Prop) :
    Option Collection → Option Collection → Prop where
  | absent : ContentsAlike related none none
  | list {items others : List Value} (h : List.Forall₂ related items others) :
      ContentsAlike related (some (.list items)) (some (.list others))
  | pairs {entries others : List (Value × Value)}
      (h : List.Forall₂ (fun entry other => related entry.1 other.1 ∧ related entry.2 other.2)
        entries others) :
      ContentsAlike related (some (.pairs entries)) (some (.pairs others))
  | set {members others : List Value} (h : List.Forall₂ related members others) :
      ContentsAlike related (some (.set members)) (some (.set others))
  | mapping {entries others : List (Value × Value)}
      (h : List.Forall₂ (fun entry other => related entry.1 other.1 ∧ related entry.2 other.2)
        entries others) :
      ContentsAlike related (some (.mapping entries)) (some (.mapping others))

/-- Two values of two documents as far as one looks into them: scalars are equal, and collections
are of one kind with related contents. -/
inductive Alike (related : Value → Value → Prop) (document other : Document) :
    Value → Value → Prop where
  | scalar {value : Value} (h : value.isScalar = true) : Alike related document other value value
  | nan (source source' : Option NodeId) : Alike related document other (.nan source) (.nan source')
  | list {node node' : NodeId} (h : ContentsAlike related (document.collection? (.list node))
      (other.collection? (.list node'))) : Alike related document other (.list node) (.list node')
  | set {node node' : NodeId} (h : ContentsAlike related (document.collection? (.set node))
      (other.collection? (.set node'))) : Alike related document other (.set node) (.set node')
  | mapping {node node' : NodeId} (h : ContentsAlike related (document.collection? (.mapping node))
      (other.collection? (.mapping node'))) :
      Alike related document other (.mapping node) (.mapping node')

/-- Two values of two documents are the same value. A collection may stand in itself, so the values
need only be related in a way that holds good however deep one looks. -/
def SameValue (document other : Document) (value value' : Value) : Prop :=
  ∃ related, related value value' ∧ ∀ a b, related a b → Alike related document other a b

variable {related : Value → Value → Prop} {document other : Document} {value value' : Value}

theorem Alike.shape_eq (h : Alike related document other value value') :
    value.shape = value'.shape := by
  cases h <;> rfl

theorem Alike.settingKey_eq (h : Alike related document other value value') :
    value.settingKey = value'.settingKey := by
  cases h <;> rfl

theorem ContentsAlike.isEmpty_eq {contents others : Option Collection}
    (h : ContentsAlike related contents others) :
    contents.any Collection.isEmpty = others.any Collection.isEmpty := by
  cases h with
  | absent => rfl
  | list h | pairs h | set h | mapping h => cases h <;> rfl

theorem Alike.isEmpty_eq (h : Alike related document other value value') :
    document.isEmpty value = other.isEmpty value' := by
  cases h with
  | scalar h => cases value <;> first | rfl | cases h
  | nan => rfl
  | list h | set h | mapping h => exact h.isEmpty_eq

/-- Pairs that are the same are the same settings. -/
theorem settings_eq_of_forall₂ (hrelated : ∀ a b, related a b → Alike related document other a b)
    {entries others : List (Value × Value)}
    (h : List.Forall₂ (fun entry other => related entry.1 other.1 ∧ related entry.2 other.2)
      entries others) : Value.settings entries = Value.settings others := by
  induction h with
  | nil => rfl
  | cons hentry _ ih =>
    obtain ⟨hkey, hvalue⟩ := hentry
    simp only [Value.settings, List.map_cons, (hrelated _ _ hkey).settingKey_eq,
      (hrelated _ _ hvalue).shape_eq] at ih ⊢
    rw [ih]

theorem settings_pairs_eq (hrelated : ∀ a b, related a b → Alike related document other a b)
    {node node' : NodeId} (h : ContentsAlike related (document.collection? (.mapping node))
      (other.collection? (.mapping node'))) :
    Value.settings (document.pairs (.mapping node)) =
      Value.settings (other.pairs (.mapping node')) := by
  unfold Document.pairs
  generalize document.collection? (.mapping node) = contents at h
  generalize other.collection? (.mapping node') = others at h
  cases h with
  | absent | list | pairs | set => rfl
  | mapping h => exact settings_eq_of_forall₂ hrelated h

theorem Value.sameKey_string {key : Value} {text : String} :
    Value.sameKey key (.string text) = true ↔ key = .string text := by
  unfold sameKey
  split
  · next hnumber => cases hnumber
  · split
    · next htime _ => cases htime
    · exact decide_eq_true_iff

end Yaml

namespace Config

/-! ### Records -/

/-- Nothing or a mapping, of which the settings can be read. -/
def IsRecord : Yaml.Value → Prop
  | .null | .mapping _ => True
  | _ => False

/-- One document is the mapping of the one key to the value that the other one is. -/
def Wraps (wrapped flat : Yaml.Document) : Prop :=
  ∃ node inner, wrapped.root = .mapping node ∧
    wrapped.pairs wrapped.root = [(.string "prodeps", inner)] ∧
    Yaml.SameValue flat wrapped flat.root inner

/-- A mapping with the key itself, which only a wrapped record has. -/
def HasKey (document : Yaml.Document) : Prop :=
  ∃ value, (.string "prodeps", value) ∈ document.pairs document.root

/-- A value that is no record but passes for nothing under the key. -/
def Swallowed (document : Yaml.Document) : Prop :=
  ¬ IsRecord document.root ∧ document.isEmpty document.root = true

variable {path : Path} {flat wrapped : Yaml.Document}

theorem recordOf_of_mapping {node : Yaml.NodeId} (hroot : flat.root = .mapping node)
    (hkey : ¬ HasKey flat) : recordOf path flat = .ok (flat.pairs flat.root) := by
  have hnone : (flat.pairs (.mapping node)).find?
      (fun pair => Yaml.Value.sameKey pair.1 (.string "prodeps")) = none := by
    refine List.find?_eq_none.mpr fun pair hpair hsame => hkey ⟨pair.2, ?_⟩
    rw [← Yaml.Value.sameKey_string.mp hsame, hroot]
    exact hpair
  simp only [recordOf, hroot, hnone]

theorem recordOf_of_not_record (h : ¬ IsRecord flat.root) :
    recordOf path flat = .error (.notMapping path flat.root.kindName) := by
  unfold recordOf
  cases hroot : flat.root with
  | null | mapping =>
    rw [hroot] at h
    exact absurd trivial h
  | bool | int | float | nan | string | bytes | timestamp | list | set => rfl

def recordUnder (path : Path) (document : Yaml.Document) :
    Yaml.Value → Except Fault (List (Yaml.Value × Yaml.Value))
  | .mapping node => .ok (document.pairs (.mapping node))
  | value => if document.isEmpty value then .ok [] else .error (.wrappedNotMapping path)

theorem recordOf_of_wrapped {node : Yaml.NodeId} {inner : Yaml.Value}
    (hroot : wrapped.root = .mapping node)
    (hpairs : wrapped.pairs wrapped.root = [(.string "prodeps", inner)]) :
    recordOf path wrapped = recordUnder path wrapped inner := by
  have hfound : (wrapped.pairs (.mapping node)).find?
      (fun pair => Yaml.Value.sameKey pair.1 (.string "prodeps")) =
        some (.string "prodeps", inner) := by
    rw [← hroot, hpairs, List.find?_cons_of_pos]
    exact Yaml.Value.sameKey_string.mpr rfl
  simp only [recordOf, hroot, hfound]
  cases inner <;> rfl

/-- A record holds the same settings in both forms. -/
theorem exists_recordOf_of_isRecord (path : Path) (hwraps : Wraps wrapped flat)
    (hkey : ¬ HasKey flat) (hrecord : IsRecord flat.root) :
    ∃ pairs pairs', recordOf path flat = .ok pairs ∧ recordOf path wrapped = .ok pairs' ∧
      Yaml.Value.settings pairs = Yaml.Value.settings pairs' := by
  obtain ⟨node, inner, hroot, hpairs, related, hrelated, hstep⟩ := hwraps
  have hinner := hstep _ _ hrelated
  have hwrapped : recordOf path wrapped = recordUnder path wrapped inner :=
    recordOf_of_wrapped hroot hpairs
  generalize hvalue : flat.root = value at hinner hrecord
  cases hinner with
  | mapping hcontents =>
    have hflat : recordOf path flat = .ok (flat.pairs flat.root) :=
      recordOf_of_mapping hvalue hkey
    rw [hvalue] at hflat
    exact ⟨_, _, hflat, hwrapped, Yaml.settings_pairs_eq hstep hcontents⟩
  | scalar hscalar =>
    cases inner with
    | null =>
      have hflat : recordOf path flat = .ok [] := by
        simp only [recordOf, hvalue]
      exact ⟨[], [], hflat, hwrapped, rfl⟩
    | mapping => cases hscalar
    | bool | int | float | nan | string | bytes | timestamp | list | set => exact hrecord.elim
  | nan | list | set => exact hrecord.elim

/-- A value that is no record is refused under the key as well, unless it passes for nothing. -/
theorem recordOf_wrapped_of_not_record (path : Path) (hwraps : Wraps wrapped flat)
    (h : ¬ IsRecord flat.root) :
    recordOf path wrapped =
      if flat.isEmpty flat.root then .ok [] else .error (.wrappedNotMapping path) := by
  obtain ⟨node, inner, hroot, hpairs, related, hrelated, hstep⟩ := hwraps
  have hinner := hstep _ _ hrelated
  rw [recordOf_of_wrapped hroot hpairs, hinner.isEmpty_eq]
  generalize flat.root = value at hinner h
  cases hinner with
  | mapping => exact absurd trivial h
  | scalar hscalar =>
    cases inner with
    | mapping => cases hscalar
    | null | bool | int | float | nan | string | bytes | timestamp | list | set => rfl
  | nan | list | set => rfl

/-! ### Loading -/

variable {words : String → String} {files files' : FileSystem}

def settle (files : FileSystem) (path : Path) (document : Yaml.Document) : Except Failure Config :=
  ((recordOf path document).mapError .config >>= fun pairs =>
    (ofSettings (Yaml.Value.settings pairs)).mapError fun rejection =>
      .config (.invalid rejection)) >>= anchored files path

theorem outcome_load_of_holds {document : Yaml.Document} (h : Holds files path document) :
    (load words files path).outcome = settle files path document := by
  obtain ⟨text, htext, hdocument⟩ := h
  rw [outcome_load_of_isFile (isFile_of_textOf htext), htext]
  show (parse words path text >>= anchored files path) = _
  rw [parse, hdocument]
  rfl

theorem anchored_eq_of_outline (h : files.outline = files'.outline) :
    anchored files path = anchored files' path := by
  funext config
  have hresolve := FileSystem.resolve_eq_of_outline h
  unfold anchored FileSystem.resolved
  simp only [hresolve]

/-- Records with the same settings come to the same, whatever else the files hold. -/
theorem settle_eq_of_settings {document other : Yaml.Document}
    {pairs pairs' : List (Yaml.Value × Yaml.Value)} (houtline : files.outline = files'.outline)
    (hpairs : recordOf path document = .ok pairs) (hpairs' : recordOf path other = .ok pairs')
    (h : Yaml.Value.settings pairs = Yaml.Value.settings pairs') :
    settle files path document = settle files' path other := by
  unfold settle
  rw [hpairs, hpairs', anchored_eq_of_outline houtline]
  show (Except.mapError _ (ofSettings (Yaml.Value.settings pairs)) >>= _) =
    (Except.mapError _ (ofSettings (Yaml.Value.settings pairs')) >>= _)
  rw [h]

theorem settle_of_fault {document : Yaml.Document} {fault : Fault}
    (h : recordOf path document = .error fault) :
    settle files path document = .error (.config fault) := by
  unfold settle
  rw [h]
  rfl

/-- The settings give a relative repository root that has no real path. -/
def RootUnresolved (files : FileSystem) (path : Path) : Prop :=
  ∃ config root problem, Gives files path config ∧ config.givenRoot? = some root ∧
    root.isAbsolute = false ∧ files.resolve (path.parent / root) = .error problem

/-- Two files come to equal settings, or both are refused as settings files. -/
def Agree (outcome other : Except Failure Config) : Prop :=
  (∃ config, outcome = .ok config ∧ other = .ok config) ∨
    ∃ fault fault', outcome = .error (.config fault) ∧ other = .error (.config fault')

theorem RootUnresolved.exists_failure (h : RootUnresolved files path) (words : String → String) :
    ∃ failure, (∀ fault, failure ≠ .config fault) ∧
      (load words files path).outcome = .error failure := by
  obtain ⟨config, root, problem, hgives, hroot, hrelative, hresolve⟩ := h
  have hescapes : Escapes files path _ := .repoRoot hgives hroot hrelative hresolve
  exact ⟨_, hescapes.not_config, hescapes.outcome_load words⟩

/-- A document can only be refused as settings, or its repository root has no real path. -/
theorem refused_or_rootUnresolved {failure : Failure} (hflat : Holds files path flat)
    (h : (load words files path).outcome = .error failure) :
    (∃ fault, failure = .config fault) ∨ RootUnresolved files path := by
  obtain ⟨text, htext, hdocument⟩ := hflat
  rw [outcome_load_of_isFile_eq_error (isFile_of_textOf htext), htext] at h
  rcases h with h | ⟨_, heq, hparse⟩ | ⟨config, hgives, hanchored⟩
  · cases h
  · cases heq
    rcases parse_eq_error.mp hparse with
      ⟨_, hproblem, -⟩ | ⟨_, -, ⟨fault, -, rfl⟩ | ⟨_, _, -, -, rfl⟩⟩
    · rw [hdocument] at hproblem
      cases hproblem
    · exact Or.inl ⟨fault, rfl⟩
    · exact Or.inl ⟨_, rfl⟩
  · obtain ⟨root, problem, hroot, hrelative, hresolve, -⟩ := anchored_eq_error.mp hanchored
    exact Or.inr ⟨config, root, problem, hgives, hroot, hrelative, hresolve⟩

section

variable (words) (houtline : files.outline = files'.outline) (hflat : Holds files path flat)
  (hwrapped : Holds files' path wrapped) (hwraps : Wraps wrapped flat)
include hflat hwrapped hwraps

include houtline in
theorem outcome_load_of_isRecord (hkey : ¬ HasKey flat) (hrecord : IsRecord flat.root) :
    (load words files' path).outcome = (load words files path).outcome := by
  obtain ⟨pairs, pairs', hpairs, hpairs', hsettings⟩ :=
    exists_recordOf_of_isRecord path hwraps hkey hrecord
  rw [outcome_load_of_holds hflat, outcome_load_of_holds hwrapped,
    settle_eq_of_settings houtline hpairs hpairs' hsettings]

/-- Without the key a value that is no record is refused, with it unless it is empty. -/
theorem outcome_load_of_not_record (h : ¬ IsRecord flat.root) :
    (load words files path).outcome = .error (.config (.notMapping path flat.root.kindName)) ∧
      (load words files' path).outcome =
        if flat.isEmpty flat.root then .ok {} else .error (.config (.wrappedNotMapping path)) := by
  have hunder := recordOf_wrapped_of_not_record path hwraps h
  rw [outcome_load_of_holds hflat, outcome_load_of_holds hwrapped]
  refine ⟨settle_of_fault (recordOf_of_not_record h), ?_⟩
  cases hempty : flat.isEmpty flat.root with
  | true =>
    rw [hempty, if_pos rfl] at hunder
    rw [settle, hunder]
    rfl
  | false =>
    rw [hempty, if_neg Bool.false_ne_true] at hunder
    exact settle_of_fault hunder

end

/-- Settings come to the same with and without the key around them, or both files are refused,
exactly if the value is not swallowed and no repository root stays without a real path. A swallowed
value is refused without the key and gives all defaults with it; a root without a real path is the
same failure in both forms; and a value that is no record is refused in both forms, unless it is
swallowed. -/
theorem forms_agree_unless_swallowed (houtline : files.outline = files'.outline)
    (hflat : Holds files path flat) (hwrapped : Holds files' path wrapped)
    (hwraps : Wraps wrapped flat) (hkey : ¬ HasKey flat) :
    (Agree (load words files path).outcome (load words files' path).outcome ↔
      ¬ Swallowed flat ∧ ¬ RootUnresolved files path) ∧
    (Swallowed flat →
      (load words files path).outcome = .error (.config (.notMapping path flat.root.kindName)) ∧
        (load words files' path).outcome = .ok {}) ∧
    (RootUnresolved files path → ∃ failure, (∀ fault, failure ≠ .config fault) ∧
      (load words files path).outcome = .error failure ∧
        (load words files' path).outcome = .error failure) ∧
    (¬ IsRecord flat.root → ¬ Swallowed flat →
      (∃ fault, (load words files path).outcome = .error (.config fault)) ∧
        ∃ fault, (load words files' path).outcome = .error (.config fault)) := by
  have hswallowed : Swallowed flat →
      (load words files path).outcome = .error (.config (.notMapping path flat.root.kindName)) ∧
        (load words files' path).outcome = .ok {} := by
    rintro ⟨hother, hempty⟩
    have houtcomes := outcome_load_of_not_record words hflat hwrapped hwraps hother
    rwa [if_pos hempty] at houtcomes
  have hrefused : ¬ IsRecord flat.root → ¬ Swallowed flat →
      (load words files path).outcome = .error (.config (.notMapping path flat.root.kindName)) ∧
        (load words files' path).outcome = .error (.config (.wrappedNotMapping path)) := by
    intro hother hnot
    have houtcomes := outcome_load_of_not_record words hflat hwrapped hwraps hother
    rwa [if_neg fun hempty => hnot ⟨hother, hempty⟩] at houtcomes
  have hrecord := outcome_load_of_isRecord words houtline hflat hwrapped hwraps hkey
  refine ⟨⟨fun h => ⟨fun hbad => ?_, fun hbad => ?_⟩, ?_⟩, hswallowed, fun hbad => ?_,
    fun hother hnot => ?_⟩
  · obtain ⟨hrefuses, hgives⟩ := hswallowed hbad
    rcases h with ⟨config, hconfig, -⟩ | ⟨fault, fault', -, hfault⟩
    · rw [hrefuses] at hconfig
      cases hconfig
    · rw [hgives] at hfault
      cases hfault
  · obtain ⟨failure, hother, hfails⟩ := hbad.exists_failure words
    rcases h with ⟨config, hconfig, -⟩ | ⟨fault, fault', hfault, -⟩
    · rw [hfails] at hconfig
      cases hconfig
    · rw [hfails] at hfault
      cases hfault
      exact hother fault rfl
  · rintro ⟨hnot, hresolved⟩
    by_cases hrecords : IsRecord flat.root
    · rw [hrecord hrecords]
      cases houtcome : (load words files path).outcome with
      | ok config => exact Or.inl ⟨config, rfl, rfl⟩
      | error failure =>
        rcases refused_or_rootUnresolved hflat houtcome with ⟨fault, rfl⟩ | hbad
        · exact Or.inr ⟨fault, fault, rfl, rfl⟩
        · exact absurd hbad hresolved
    · obtain ⟨hfirst, hsecond⟩ := hrefused hrecords hnot
      exact Or.inr ⟨_, _, hfirst, hsecond⟩
  · obtain ⟨failure, hother, hfails⟩ := hbad.exists_failure words
    refine ⟨failure, hother, hfails, ?_⟩
    by_cases hrecords : IsRecord flat.root
    · rw [hrecord hrecords, hfails]
    · -- what is no record has no repository root
      obtain ⟨hrefuses, -⟩ := outcome_load_of_not_record words hflat hwrapped hwraps hrecords
      rw [hrefuses] at hfails
      cases hfails
      exact absurd rfl (hother _)
  · obtain ⟨hfirst, hsecond⟩ := hrefused hother hnot
    exact ⟨⟨_, hfirst⟩, ⟨_, hsecond⟩⟩

/-! ### A swallowed list -/

def settingsFile (text : String) : FileSystem :=
  ⟨[(["c"], .file (Text.encodeUtf8 text) true)], "/"⟩

def settingsPath : Path := ⟨.root, ["c"]⟩

def wordless : String → String := fun _ => ""

theorem outline_settingsFile (text other : String) :
    (settingsFile text).outline = (settingsFile other).outline := rfl

def listDocument : Yaml.Document := ⟨.list 0, [(0, .list [])]⟩

def wrappedList : Yaml.Document :=
  ⟨.mapping 0, [(2, .list []), (0, .mapping [(.string "prodeps", .list 2)])]⟩

def linkDocument : Yaml.Document :=
  ⟨.mapping 0, [(0, .mapping [(.string "link_dir", .string "m")])]⟩

def wrappedLink : Yaml.Document :=
  ⟨.mapping 0, [(2, .mapping [(.string "link_dir", .string "m")]),
    (0, .mapping [(.string "prodeps", .mapping 2)])]⟩

theorem holds_listDocument : Holds (settingsFile "[]") settingsPath listDocument :=
  ⟨"[]", by cbv, by cbv⟩

theorem holds_wrappedList : Holds (settingsFile "\"prodeps\": []") settingsPath wrappedList :=
  ⟨"\"prodeps\": []", by cbv, by cbv⟩

def linkText : String := "\"link_dir\": \"m\""

def wrappedLinkText : String := "\"prodeps\": \x7b\"link_dir\": \"m\"\x7d"

theorem textOf_linkText : textOf (settingsFile linkText) settingsPath = .ok linkText := by cbv

theorem parse_linkText : Yaml.Document.parse linkText = .ok linkDocument := by cbv

theorem holds_wrappedLink : Holds (settingsFile wrappedLinkText) settingsPath wrappedLink :=
  ⟨wrappedLinkText, by cbv, by cbv⟩

theorem wraps_wrappedList : Wraps wrappedList listDocument := by
  refine ⟨0, .list 2, rfl, rfl, fun value value' => value = .list 0 ∧ value' = .list 2,
    ⟨rfl, rfl⟩, ?_⟩
  rintro _ _ ⟨rfl, rfl⟩
  exact .list (.list .nil)

theorem wraps_wrappedLink : Wraps wrappedLink linkDocument := by
  refine ⟨0, .mapping 2, rfl, rfl, fun value value' => value = .mapping 0 ∧ value' = .mapping 2 ∨
    value.isScalar = true ∧ value = value', Or.inl ⟨rfl, rfl⟩, ?_⟩
  rintro value _ (⟨rfl, rfl⟩ | ⟨hscalar, rfl⟩)
  · exact .mapping (.mapping (.cons ⟨Or.inr ⟨rfl, rfl⟩, Or.inr ⟨rfl, rfl⟩⟩ .nil))
  · exact .scalar hscalar

theorem not_hasKey_listDocument : ¬ HasKey listDocument := by
  rintro ⟨value, hmem⟩
  exact absurd hmem List.not_mem_nil

theorem not_hasKey_linkDocument : ¬ HasKey linkDocument := by
  rintro ⟨value, hmem⟩
  have honly : (Yaml.Value.string "prodeps", value) ∈
      [(Yaml.Value.string "link_dir", Yaml.Value.string "m")] := hmem
  simp at honly

theorem swallowed_listDocument : Swallowed listDocument := ⟨id, rfl⟩

theorem not_rootUnresolved_linkText : ¬ RootUnresolved (settingsFile linkText) settingsPath := by
  rintro ⟨config, root, problem, ⟨document, pairs, ⟨text, htext, hdocument⟩, hpairs, hconfig⟩,
    hroot, -⟩
  rw [textOf_linkText] at htext
  cases htext
  rw [parse_linkText] at hdocument
  cases hdocument
  have hrecord : recordOf settingsPath linkDocument =
      .ok [(.string "link_dir", .string "m")] := by cbv
  rw [hrecord] at hpairs
  cases hpairs
  have hread : ofSettings (Yaml.Value.settings [(.string "link_dir", .string "m")]) =
      .ok { linkFolder := "m" } := by cbv
  rw [hread] at hconfig
  cases hconfig
  cases hroot

/-- One setting is read in both forms, and an empty list is refused in one of them only. -/
theorem link_agrees_and_list_is_swallowed :
    Agree (load wordless (settingsFile linkText) settingsPath).outcome
        (load wordless (settingsFile wrappedLinkText) settingsPath).outcome ∧
      (load wordless (settingsFile "[]") settingsPath).outcome =
        .error (.config (.notMapping settingsPath "list")) ∧
      (load wordless (settingsFile "\"prodeps\": []") settingsPath).outcome = .ok {} := by
  obtain ⟨hagree, -⟩ := forms_agree_unless_swallowed (outline_settingsFile _ _)
    ⟨_, textOf_linkText, parse_linkText⟩ holds_wrappedLink wraps_wrappedLink not_hasKey_linkDocument
  obtain ⟨-, hswallowed, -⟩ := forms_agree_unless_swallowed (outline_settingsFile _ _)
    holds_listDocument holds_wrappedList wraps_wrappedList not_hasKey_listDocument
  exact ⟨hagree.mpr ⟨fun h => h.1 trivial, not_rootUnresolved_linkText⟩,
    hswallowed swallowed_listDocument⟩

/-- So the two forms do not always agree. -/
theorem forms_do_not_always_agree :
    ¬ ∀ (words : String → String) (files files' : FileSystem) (path : Path)
        (flat wrapped : Yaml.Document),
      files.outline = files'.outline → Holds files path flat → Holds files' path wrapped →
        Wraps wrapped flat → ¬ HasKey flat →
          Agree (load words files path).outcome (load words files' path).outcome := by
  intro hagree
  have hlist := hagree wordless _ _ _ _ _ (outline_settingsFile _ _) holds_listDocument
    holds_wrappedList wraps_wrappedList not_hasKey_listDocument
  obtain ⟨hrefused, hempty⟩ := outcome_load_of_not_record wordless holds_listDocument
    holds_wrappedList wraps_wrappedList swallowed_listDocument.1
  rw [if_pos swallowed_listDocument.2] at hempty
  rcases hlist with ⟨config, hconfig, -⟩ | ⟨fault, fault', -, hfault⟩
  · rw [hrefused] at hconfig
    cases hconfig
  · rw [hempty] at hfault
    cases hfault

end Config

end ProductionClosure

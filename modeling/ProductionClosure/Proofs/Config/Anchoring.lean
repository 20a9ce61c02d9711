import ProductionClosure.Proofs.Config.Loading
import ProductionClosure.Proofs.FileSystem.WorkingFolder
import ProductionClosure.Proofs.Schema.Field

/-!
Where the repository root of a settings file is. An absolute root is kept as it is written, and a
relative one is seen from the folder of the file: what is loaded has the text of its real path. So
for a file with an absolute path the working folder makes no difference, and a dot is the folder of
the file.
-/

namespace ProductionClosure.Config

/-- What becomes of the repository root that is written in a file. -/
inductive RootAnchored (files : FileSystem) (path : Path) (written : Config) : Config → Prop where
  | unset (h : written.repoRoot = none ∨ written.repoRoot = some "") :
      RootAnchored files path written written
  | kept {text : String} (h : written.repoRoot = some text)
      (habsolute : (Path.ofString text).isAbsolute = true) :
      RootAnchored files path written written
  | moved {text : String} {real : Path} (h : written.repoRoot = some text) (hne : text ≠ "")
      (hrelative : (Path.ofString text).isAbsolute = false)
      (hreal : files.resolve (path.parent / Path.ofString text) = .ok real) :
      RootAnchored files path written { written with repoRoot := some real.toString }

variable {words : String → String} {files : FileSystem} {path : Path} {written config : Config}

/-! ### The root that is loaded -/

theorem anchored_of_none (h : written.givenRoot? = none) :
    anchored files path written = .ok written := by
  rw [anchored, h]

theorem anchored_of_absolute {root : Path} (h : written.givenRoot? = some root)
    (habsolute : root.isAbsolute = true) : anchored files path written = .ok written := by
  rw [anchored, h]
  exact if_pos habsolute

theorem anchored_of_relative {root real : Path} (h : written.givenRoot? = some root)
    (hrelative : root.isAbsolute = false) (hreal : files.resolve (path.parent / root) = .ok real) :
    anchored files path written = .ok { written with repoRoot := some real.toString } := by
  rw [anchored, h]
  dsimp only
  rw [if_neg (by rw [hrelative]; exact Bool.false_ne_true), FileSystem.resolved, hreal]
  rfl

theorem anchored_eq_ok :
    anchored files path written = .ok config ↔ RootAnchored files path written config := by
  constructor
  · intro h
    cases hgiven : written.givenRoot? with
    | none =>
      rw [anchored_of_none hgiven] at h
      cases h
      refine .unset ?_
      cases hroot : written.repoRoot with
      | none => exact Or.inl rfl
      | some text => exact Or.inr (congrArg some (givenRoot?_eq_none.mp hgiven text hroot))
    | some root =>
      obtain ⟨text, hroot, hne, rfl⟩ := givenRoot?_eq_some.mp hgiven
      cases habsolute : (Path.ofString text).isAbsolute with
      | true =>
        rw [anchored_of_absolute hgiven habsolute] at h
        cases h
        exact .kept hroot habsolute
      | false =>
        cases hreal : files.resolve (path.parent / Path.ofString text) with
        | ok real =>
          rw [anchored_of_relative hgiven habsolute hreal] at h
          cases h
          exact .moved hroot hne habsolute hreal
        | error problem =>
          rw [anchored_eq_error.mpr ⟨_, _, hgiven, habsolute, hreal, rfl⟩] at h
          cases h
  · intro h
    cases h with
    | unset h =>
      refine anchored_of_none (givenRoot?_eq_none.mpr fun text htext => ?_)
      rcases h with h | h <;> rw [h] at htext <;> cases htext
      rfl
    | @kept text h habsolute =>
      have hne : text ≠ "" := by
        rintro rfl
        cases habsolute
      exact anchored_of_absolute (givenRoot?_eq_some.mpr ⟨text, h, hne, rfl⟩) habsolute
    | moved h hne hrelative hreal =>
      exact anchored_of_relative (givenRoot?_eq_some.mpr ⟨_, h, hne, rfl⟩) hrelative hreal

/-- What is loaded are the settings in the file, with their root anchored at the file. -/
theorem outcome_load_eq_ok :
    (load words files path).outcome = .ok config ↔
      ∃ written, Gives files path written ∧ RootAnchored files path written config := by
  constructor
  · intro h
    have hfile : files.isFile? path = .ok true := by
      cases hasked : files.isFile? path with
      | error problem =>
        rw [outcome_load_of_unanswered hasked] at h
        cases h
      | ok present =>
        cases present with
        | true => rfl
        | false =>
          rw [outcome_load_of_not_file hasked] at h
          cases h
    rw [outcome_load_of_isFile hfile] at h
    obtain ⟨text, htext, h⟩ := Outcome.bind_eq_ok.mp h
    obtain ⟨written, hwritten, h⟩ := Outcome.bind_eq_ok.mp h
    exact ⟨written, gives_of_parse htext hwritten, anchored_eq_ok.mp h⟩
  · rintro ⟨written, hgives, hanchored⟩
    obtain ⟨text, htext, hwritten⟩ := hgives.exists_parse words
    rw [outcome_load_of_isFile (isFile_of_textOf htext)]
    exact Outcome.bind_eq_ok.mpr ⟨text, htext,
      Outcome.bind_eq_ok.mpr ⟨written, hwritten, anchored_eq_ok.mpr hanchored⟩⟩

/-- The text of a real path is absolute, and reading it gives the real path back. -/
theorem ofString_of_resolve {real : Path} (h : files.resolve path = .ok real) :
    Path.ofString real.toString = real :=
  Path.ofString_toString (FileSystem.named_realPath (FileSystem.realPath_of_resolve h))

/-- A root that is loaded is none, empty or absolute. -/
theorem RootAnchored.absolute (h : RootAnchored files path written config)
    (hfolder : (Path.ofString files.workingFolder).isAbsolute = true) {text : String}
    (hroot : config.repoRoot = some text) (hne : text ≠ "") :
    (Path.ofString text).isAbsolute = true := by
  cases h with
  | unset h =>
    rcases h with h | h
    · rw [h] at hroot
      cases hroot
    · rw [h] at hroot
      exact absurd (Option.some.inj hroot).symm hne
  | kept h habsolute =>
    rw [h] at hroot
    exact Option.some.inj hroot ▸ habsolute
  | moved _ _ _ hreal =>
    obtain rfl := Option.some.inj hroot
    rw [ofString_of_resolve hreal]
    exact FileSystem.isAbsolute_realPath hfolder (FileSystem.realPath_of_resolve hreal)

/-! ### Other working folders -/

section

variable {folder : String} (h : path.isAbsolute = true)
include h

theorem isFile?_inFolder : (files.inFolder folder).isFile? path = files.isFile? path := by
  unfold FileSystem.isFile? FileSystem.ask
  rw [FileSystem.status_inFolder h]

theorem textOf_inFolder : textOf (files.inFolder folder) path = textOf files path := by
  have hread : (files.inFolder folder).read path.toString = files.read path.toString := by
    unfold FileSystem.read
    rw [FileSystem.status_inFolder h]
  rw [textOf, textOf, hread]

theorem anchored_inFolder (written : Config) :
    anchored (files.inFolder folder) path written = anchored files path written := by
  have hparent : ∀ root, (files.inFolder folder).resolve (path.parent / root) =
      files.resolve (path.parent / root) :=
    fun root => FileSystem.resolve_inFolder (Path.isAbsolute_div h)
  unfold anchored
  simp only [FileSystem.resolved, hparent]

/-- A file with an absolute path is loaded the same from every working folder. -/
theorem load_inFolder : load words (files.inFolder folder) path = load words files path := by
  have hanswer : FileSystem.answer (files.inFolder folder).isFile? path =
      FileSystem.answer files.isFile? path := by
    rw [FileSystem.answer, isFile?_inFolder h, FileSystem.answer]
  unfold load
  simp only [hanswer, textOf_inFolder h, anchored_inFolder h]

end

/-! ### A dot for the root -/

def Written (files : FileSystem) (path : Path) (settings : List Setting) : Prop :=
  ∃ document pairs, Holds files path document ∧ recordOf path document = .ok pairs ∧
    Yaml.Value.settings pairs = settings

def dotRoot : Setting := ⟨.name "repo_root", .string "."⟩

/-- The settings do not speak of the repository root. -/
def NoRoot (settings : List Setting) : Prop := ∀ setting ∈ settings, setting.key ≠ .name "repo_root"

theorem gives_of_written {settings : List Setting} (h : Written files path settings)
    (hconfig : ofSettings settings = .ok config) : Gives files path config := by
  obtain ⟨document, pairs, hholds, hpairs, rfl⟩ := h
  exact ⟨document, pairs, hholds, hpairs, hconfig⟩

theorem Written.gives_iff {settings : List Setting} (h : Written files path settings) :
    Gives files path config ↔ ofSettings settings = .ok config := by
  refine ⟨fun hgives => ?_, gives_of_written h⟩
  obtain ⟨document, pairs, ⟨text, htext, hdocument⟩, hpairs, rfl⟩ := h
  obtain ⟨document', pairs', ⟨text', htext', hdocument'⟩, hpairs', hconfig⟩ := hgives
  -- a file has one text, which is one document, which holds one record
  obtain rfl := Except.ok.inj (htext.symm.trans htext')
  obtain rfl := Except.ok.inj (hdocument.symm.trans hdocument')
  obtain rfl := Except.ok.inj (hpairs.symm.trans hpairs')
  exact hconfig

structure Reads (settings : List Setting) (config : Config) : Prop where
  packageManager : setting settings "package_manager" Schema.textOf "pnpm" =
    .valid config.packageManager
  linkFolder : setting settings "link_dir" Schema.textOf "node_modules" = .valid config.linkFolder
  storeMarker : setting settings "store_marker" Schema.textOf ".pnpm" = .valid config.storeMarker
  overlayFolder : setting settings "overlay_dir" Schema.textOf ".build/distro/npm" =
    .valid config.overlayFolder
  overlay : setting settings "overlay" Schema.boolOf true = .valid config.overlay
  repoRoot : setting settings "repo_root" Schema.optionalTextOf none = .valid config.repoRoot
  keys : checkKeys settings = .valid ()

theorem ofSettings_eq_ok {settings : List Setting} :
    ofSettings settings = .ok config ↔ Reads settings config := by
  obtain ⟨manager, link, marker, folder, overlay, root⟩ := config
  simp only [ofSettings, check, Schema.Checked.toExcept_eq_ok, Schema.Checked.apply_eq_seq,
    Schema.Checked.map_eq, Schema.Checked.seq_eq_valid, Schema.Checked.map_eq_valid]
  -- the fields are applied one by one, the keys outermost
  constructor
  · rintro ⟨_, _, ⟨_, _, ⟨_, _, ⟨_, _, ⟨_, _, ⟨_, _, ⟨_, hmanager, rfl⟩, hlink, rfl⟩, hmarker, rfl⟩,
      hfolder, rfl⟩, hoverlay, rfl⟩, hroot, rfl⟩, hkeys, heq⟩
    cases heq
    exact ⟨hmanager, hlink, hmarker, hfolder, hoverlay, hroot, hkeys⟩
  · rintro ⟨hmanager, hlink, hmarker, hfolder, hoverlay, hroot, hkeys⟩
    exact ⟨_, _, ⟨_, _, ⟨_, _, ⟨_, _, ⟨_, _, ⟨_, _, ⟨_, hmanager, rfl⟩, hlink, rfl⟩, hmarker, rfl⟩,
      hfolder, rfl⟩, hoverlay, rfl⟩, hroot, rfl⟩, hkeys, rfl⟩

variable {front back : List Setting}

theorem value?_insert {new : Setting} {name : String} (h : new.key ≠ .name name) :
    value? (front ++ new :: back) name = value? (front ++ back) name := by
  simp only [value?, List.find?_append, List.find?_cons, decide_eq_false h]

theorem value?_dotRoot (h : NoRoot (front ++ back)) :
    value? (front ++ dotRoot :: back) "repo_root" = some (.string ".") ∧
      value? (front ++ back) "repo_root" = none := by
  have hnone : ∀ settings : List Setting, (∀ setting ∈ settings, setting ∈ front ++ back) →
      settings.find? (fun setting => setting.key = .name "repo_root") = none := by
    intro settings hsub
    refine List.find?_eq_none.mpr fun setting hmem => ?_
    simpa using h setting (hsub setting hmem)
  constructor
  · rw [value?, List.find?_append,
      hnone front fun setting hmem => List.mem_append_left back hmem]
    rfl
  · rw [value?, hnone _ fun setting hmem => hmem]
    rfl

theorem checkKeys_dotRoot :
    checkKeys (front ++ dotRoot :: back) = checkKeys (front ++ back) := by
  have hknown : keyDefect? dotRoot.key = none := by decide
  simp only [checkKeys, List.filterMap_append, List.filterMap_cons, hknown]

theorem setting_dotRoot {α : Type} {name : String} {check : Schema.Shape → Except Schema.Problem α}
    {default : α} (h : dotRoot.key ≠ .name name) :
    setting (front ++ dotRoot :: back) name check default =
      setting (front ++ back) name check default := by
  rw [setting, value?_insert h, setting]

section

variable (h : NoRoot (front ++ back))
include h

theorem repoRoot_of_noRoot {plain : Config} (hplain : ofSettings (front ++ back) = .ok plain) :
    plain.repoRoot = none := by
  have hroot := (ofSettings_eq_ok.mp hplain).repoRoot
  rw [setting, (value?_dotRoot h).2] at hroot
  exact (Schema.Checked.valid.inj hroot).symm

/-- A dot for the root, and otherwise the same settings. -/
theorem ofSettings_dotRoot :
    ofSettings (front ++ dotRoot :: back) = .ok config ↔
      ∃ plain, ofSettings (front ++ back) = .ok plain ∧
        config = { plain with repoRoot := some "." } := by
  obtain ⟨hdot, hnone⟩ := value?_dotRoot h
  have hroot : setting (front ++ dotRoot :: back) "repo_root" Schema.optionalTextOf none =
      .valid (some ".") := by
    rw [setting, hdot]
    rfl
  have hplain : setting (front ++ back) "repo_root" Schema.optionalTextOf none = .valid none := by
    rw [setting, hnone]
  simp only [ofSettings_eq_ok]
  constructor
  · rintro ⟨hmanager, hlink, hmarker, hfolder, hoverlay, hdotted, hkeys⟩
    rw [setting_dotRoot (by decide)] at hmanager hlink hmarker hfolder hoverlay
    rw [checkKeys_dotRoot] at hkeys
    rw [hroot] at hdotted
    obtain ⟨manager, link, marker, folder, overlay, root⟩ := config
    cases hdotted
    exact ⟨⟨manager, link, marker, folder, overlay, none⟩,
      ⟨hmanager, hlink, hmarker, hfolder, hoverlay, hplain, hkeys⟩, rfl⟩
  · rintro ⟨plain, ⟨hmanager, hlink, hmarker, hfolder, hoverlay, -, hkeys⟩, rfl⟩
    rw [← setting_dotRoot (by decide)] at hmanager hlink hmarker hfolder hoverlay
    rw [← checkKeys_dotRoot] at hkeys
    exact ⟨hmanager, hlink, hmarker, hfolder, hoverlay, hroot, hkeys⟩

theorem outcome_load_of_noRoot {plain : Config} (hplain : Written files path (front ++ back)) :
    (load words files path).outcome = .ok plain ↔ ofSettings (front ++ back) = .ok plain := by
  rw [outcome_load_eq_ok]
  constructor
  · rintro ⟨written, hgives, hanchored⟩
    have hwritten := hplain.gives_iff.mp hgives
    have hnone := repoRoot_of_noRoot h hwritten
    cases hanchored with
    | unset | kept => exact hwritten
    | moved hroot =>
      rw [hnone] at hroot
      cases hroot
  · intro hwritten
    exact ⟨plain, hplain.gives_iff.mpr hwritten, .unset (Or.inl (repoRoot_of_noRoot h hwritten))⟩

theorem outcome_load_dotRoot (hdot : Written files path (front ++ dotRoot :: back)) :
    (load words files path).outcome = .ok config ↔
      ∃ plain real, ofSettings (front ++ back) = .ok plain ∧ files.resolve path.parent = .ok real ∧
        config = { plain with repoRoot := some real.toString } := by
  have hparent : path.parent / Path.ofString "." = path.parent := by
    rw [Path.div_of_no_slash _ (by decide)]
    exact congrArg (Path.mk _) (List.append_nil _)
  rw [outcome_load_eq_ok]
  constructor
  · rintro ⟨written, hgives, hanchored⟩
    obtain ⟨plain, hwritten, rfl⟩ := (ofSettings_dotRoot h).mp (hdot.gives_iff.mp hgives)
    cases hanchored with
    | unset hroot =>
      rcases hroot with hroot | hroot
      · cases hroot
      · exact absurd (Option.some.inj hroot) (by decide)
    | kept hroot habsolute =>
      cases hroot
      cases habsolute
    | moved hroot _ _ hreal =>
      cases hroot
      rw [hparent] at hreal
      exact ⟨plain, _, hwritten, hreal, rfl⟩
  · rintro ⟨plain, real, hwritten, hreal, rfl⟩
    refine ⟨{ plain with repoRoot := some "." },
      hdot.gives_iff.mpr ((ofSettings_dotRoot h).mpr ⟨plain, hwritten, rfl⟩), ?_⟩
    exact .moved rfl (by decide) (by decide) (by rw [hparent]; exact hreal)

end

end ProductionClosure.Config

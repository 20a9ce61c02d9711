import ProductionClosure.Proofs.CommandLine.RepoRoot
import ProductionClosure.Proofs.CommandLine.Twin
import ProductionClosure.Proofs.Config.Anchoring

/-!
The repository root of a settings file, as the commands see it. What is loaded is seen from the file
and not from the working folder; and a file that puts its root in its own folder by a dot says the
same as one that is silent, since the folder of the file is then registered as the root.
-/

namespace ProductionClosure.CommandLine

section

variable {world twin : World} {moment : Log.Moment} {registered : Option Path}
  {arguments : List String} {start twinStart : Start} {path : Path}

/-- One command line on two disks that differ in the contents of files only: in its settings file
there are the same settings, but for a dot for the repository root on the second disk. -/
structure Start.DotRooted (world twin : World) (moment : Log.Moment) (arguments : List String)
    (start twinStart : Start) (path : Path) : Prop where
  leads : Start.Of world arguments start
  leadsTwin : Start.Of twin arguments twinStart
  outline : world.files.outline = twin.files.outline
  environment : twin.environment = world.environment
  settingsAt : start.SettingsAt path
  written : ∃ front back, Config.NoRoot (front ++ back) ∧
    Config.Written (start.disk world moment [.configLoading path]) path (front ++ back) ∧
    Config.Written (twinStart.disk twin moment [.configLoading path]) path
      (front ++ Config.dotRoot :: back)

/-! ### The settings on both disks -/

theorem Start.settings_eq_ok (hpath : start.SettingsAt path) {settings : Settings} :
    (start.settings world moment).outcome = .ok settings ↔
      ∃ config folder, (start.loading world moment path).outcome = .ok config ∧
        start.files.resolve path.parent = .ok folder ∧
        settings = ⟨config, some path, some folder⟩ := by
  have hfolder : ∀ folder, Config.folderOf start.files path = .ok folder ↔
      start.files.resolve path.parent = .ok folder := fun _ => Outcome.mapError_eq_ok
  rw [Start.settings, loadSettings_eq, hpath, Run.outcome_ok_andThen]
  simp only [Run.outcome_andThen_eq_ok, Run.outcome_ofExcept, Run.outcome_done, hfolder]
  constructor
  · rintro ⟨config, hload, folder, hreal, heq⟩
    cases heq
    exact ⟨config, folder, hload, hreal, rfl⟩
  · rintro ⟨config, folder, hload, hreal, rfl⟩
    exact ⟨config, hload, folder, hreal, rfl⟩

inductive DotTwin : Settings → Settings → Prop where
  | mk {plain : Config} {path folder : Path} (hroot : plain.repoRoot = none)
      (hfolder : Path.ofString folder.toString = folder) :
      DotTwin ⟨plain, some path, some folder⟩
        ⟨{ plain with repoRoot := some folder.toString }, some path, some folder⟩

/-- The settings are loaded on both disks or on neither. -/
theorem Start.DotRooted.settings (h : DotRooted world twin moment arguments start twinStart path)
    (hsound : world.files.Sound) :
    (∀ settings, (start.settings world moment).outcome = .ok settings →
      ∃ dotted, (twinStart.settings twin moment).outcome = .ok dotted ∧ DotTwin settings dotted) ∧
    ∀ dotted, (twinStart.settings twin moment).outcome = .ok dotted →
      ∃ settings, (start.settings world moment).outcome = .ok settings ∧
        DotTwin settings dotted := by
  obtain ⟨front, back, hnone, hplain, hdot⟩ := h.written
  obtain ⟨hinvocation, hcommand, hfiles⟩ := h.leads.eq_twin h.outline h.environment h.leadsTwin
  have hshape := FileSystem.sameShape_of_outline hfiles
  have htwinPath : twinStart.SettingsAt path := by
    rw [SettingsAt, hinvocation, hcommand, settingsPath_of_shape hshape, start_of_shape hshape]
    exact h.settingsAt
  have hreal : (twinStart.disk twin moment [.configLoading path]).resolve path.parent =
      start.files.resolve path.parent := by
    rw [h.leadsTwin.resolve_disk (FileSystem.sound_of_outline h.outline hsound), hshape.resolve_eq]
  simp only [settings_eq_ok h.settingsAt, settings_eq_ok htwinPath, loading,
    Config.outcome_load_of_noRoot hnone hplain, Config.outcome_load_dotRoot hnone hdot, hreal,
    hshape.resolve_eq]
  constructor
  · rintro settings ⟨plain, folder, hread, hfolder, rfl⟩
    exact ⟨_, ⟨_, folder, ⟨plain, folder, hread, hfolder, rfl⟩, hfolder, rfl⟩,
      .mk (Config.repoRoot_of_noRoot hnone hread) (Config.ofString_of_resolve hfolder)⟩
  · rintro dotted ⟨_, folder, ⟨plain, real, hread, hfolder, rfl⟩, hfolder', rfl⟩
    rw [hfolder] at hfolder'
    cases hfolder'
    exact ⟨_, ⟨plain, folder, hread, hfolder, rfl⟩,
      .mk (Config.repoRoot_of_noRoot hnone hread) (Config.ofString_of_resolve hfolder)⟩

/-! ### The root on both disks -/

theorem toString_ne_empty {path : Path} (h : Path.ofString path.toString = path) :
    path.toString ≠ "" := by
  intro hempty
  rw [hempty] at h
  rw [← h] at hempty
  exact absurd hempty (by decide)

theorem Start.root_of_some (start : Start) (settings : Settings) (workspace root : Path) :
    start.root settings workspace (some root) = start.files.absolute root := by
  simp [Start.root, effectiveRepoRoot]

theorem DotTwin.root_eq {settings dotted : Settings} (h : DotTwin settings dotted)
    (hfolder : twinStart.files.workingFolder = start.files.workingFolder) (workspace : Path)
    (repoRoot : Option Path) :
    twinStart.root dotted workspace repoRoot = start.root settings workspace repoRoot := by
  cases h with
  | @mk plain path folder hroot hnamed =>
    cases repoRoot with
    | some root =>
      rw [Start.root_of_some, Start.root_of_some, FileSystem.absolute, hfolder]
      rfl
    | none =>
      -- the dot stands for the folder that is registered without it
      have hgiven : ({ plain with repoRoot := some folder.toString } : Config).givenRoot? =
          some folder :=
        Config.givenRoot?_eq_some.mpr ⟨_, rfl, toString_ne_empty hnamed, hnamed⟩
      have hsilent : plain.givenRoot? = none :=
        Config.givenRoot?_eq_none.mpr fun text htext => by
          rw [hroot] at htext
          cases htext
      rw [Start.root_of_none, Start.root_of_none, hgiven, hsilent]
      rfl

theorem Start.DotRooted.registered_eq
    (h : DotRooted world twin moment arguments start twinStart path) (hsound : world.files.Sound)
    (registered : Option Path) :
    (run twin moment registered arguments).registered =
      (run world moment registered arguments).registered := by
  obtain ⟨hto, hfrom⟩ := h.settings hsound
  rw [registered_run_of_start h.leads, registered_run_of_start h.leadsTwin]
  cases hsettings : (start.settings world moment).outcome with
  | ok settings =>
    obtain ⟨dotted, hdotted, htwin⟩ := hto settings hsettings
    rw [hdotted]
    cases htwin
    rfl
  | error failure =>
    cases hdotted : (twinStart.settings twin moment).outcome with
    | ok dotted =>
      obtain ⟨settings, hloaded, -⟩ := hfrom dotted hdotted
      rw [hsettings] at hloaded
      cases hloaded
    | error other => rfl

end

/-! ### Anchored roots -/

/-- The repository root that is loaded is the written one, if that is none, empty or absolute, and
else the real path of what it names in the folder of the settings file; so it is always none, empty or
absolute. From an absolute file the same is loaded in every working folder. And settings that are
silent on the root come to the same as with a dot for the root, on every sound disk: both are loaded
or neither is, the same root is registered, and a command about a workspace is carried out with the
same root. -/
theorem repo_root_is_anchored :
    (∀ words files path config, (Config.load words files path).outcome = .ok config ↔
      ∃ written, Config.Gives files path written ∧
        Config.RootAnchored files path written config) ∧
    (∀ words files path config, (Path.ofString files.workingFolder).isAbsolute = true →
      (Config.load words files path).outcome = .ok config →
        config.repoRoot = none ∨ config.repoRoot = some "" ∨
          ∃ text, config.repoRoot = some text ∧ (Path.ofString text).isAbsolute = true) ∧
    (∀ words files folder path, path.isAbsolute = true →
      Config.load words (files.inFolder folder) path = Config.load words files path) ∧
    ∀ world twin moment arguments start twinStart path, world.files.Sound →
      Start.DotRooted world twin moment arguments start twinStart path →
        (∀ registered, (run twin moment registered arguments).registered =
          (run world moment registered arguments).registered) ∧
        ((∃ settings, (start.settings world moment).outcome = .ok settings) ↔
          ∃ dotted, (twinStart.settings twin moment).outcome = .ok dotted) ∧
        twinStart.command = start.command ∧
        ∀ settings dotted workspace repoRoot,
          (start.settings world moment).outcome = .ok settings →
          (twinStart.settings twin moment).outcome = .ok dotted →
          start.command.Concerns workspace repoRoot →
            ∃ root, start.root settings workspace repoRoot = root ∧
              twinStart.root dotted workspace repoRoot = root ∧
              ∀ registered,
                run world moment registered arguments =
                  start.resultAt world moment settings root ∧
                run twin moment registered arguments =
                  twinStart.resultAt twin moment dotted root := by
  refine ⟨fun words files path config => Config.outcome_load_eq_ok, ?_,
    fun words files folder path => Config.load_inFolder, ?_⟩
  · intro words files path config hfolder hload
    obtain ⟨written, -, hanchored⟩ := Config.outcome_load_eq_ok.mp hload
    cases hroot : config.repoRoot with
    | none => exact Or.inl rfl
    | some text =>
      by_cases hne : text = ""
      · exact Or.inr (Or.inl (congrArg some hne))
      · exact Or.inr (Or.inr ⟨text, rfl, hanchored.absolute hfolder hroot hne⟩)
  · intro world twin moment arguments start twinStart path hsound h
    obtain ⟨hto, hfrom⟩ := h.settings hsound
    obtain ⟨-, hcommand, hfiles⟩ := h.leads.eq_twin h.outline h.environment h.leadsTwin
    have hfolder := (FileSystem.sameShape_of_outline hfiles).folder
    refine ⟨h.registered_eq hsound, ⟨?_, ?_⟩, hcommand, ?_⟩
    · rintro ⟨settings, hsettings⟩
      obtain ⟨dotted, hdotted, -⟩ := hto settings hsettings
      exact ⟨dotted, hdotted⟩
    · rintro ⟨dotted, hdotted⟩
      obtain ⟨settings, hsettings, -⟩ := hfrom dotted hdotted
      exact ⟨settings, hsettings⟩
    · intro settings dotted workspace repoRoot hsettings hdotted hconcerns
      obtain ⟨other, hother, htwin⟩ := hto settings hsettings
      obtain rfl := Except.ok.inj (hother.symm.trans hdotted)
      have hroot := htwin.root_eq hfolder workspace repoRoot
      refine ⟨_, rfl, hroot, fun registered => ⟨?_, ?_⟩⟩
      · rw [run_of_start h.leads, Start.result_eq_resultAt hconcerns hsettings]
      · rw [run_of_start h.leadsTwin, Start.result_eq_resultAt (hcommand ▸ hconcerns) hdotted,
          hroot]

namespace Dotted

def files : FileSystem :=
  ⟨[(["d"], .directory), (["d", "c"], .file (Text.encodeUtf8 "\"repo_root\": \".\"") true)], "/"⟩

def world : World := { Rooted.world with files }

def document : Yaml.Document := ⟨.mapping 0, [(0, .mapping [(.string "repo_root", .string ".")])]⟩

theorem holds_document : Config.Holds files Rooted.path document :=
  ⟨"\"repo_root\": \".\"", by cbv, by cbv⟩

theorem holds_nothing : Config.Holds Rooted.world.files Rooted.path ⟨.null, []⟩ :=
  ⟨"", by cbv, by cbv⟩

def start : Start := { Rooted.start with files }

theorem outline_files : Rooted.world.files.outline = world.files.outline := rfl

theorem start_of_arguments : Start.Of world Rooted.arguments start := by
  obtain ⟨files', -, htwin⟩ :=
    Rooted.start_of_arguments.exists_twin outline_files rfl
  have hfiles := (htwin.of_no_log_file rfl).2
  dsimp only at hfiles
  subst hfiles
  exact htwin

/-- Without a log file the settings are loaded from the disk as it is. -/
theorem dotRooted :
    Start.DotRooted Rooted.world world epoch Rooted.arguments Rooted.start start Rooted.path where
  leads := Rooted.start_of_arguments
  leadsTwin := start_of_arguments
  outline := outline_files
  environment := rfl
  settingsAt := rfl
  written := by
    refine ⟨[], [], fun _ hmem => absurd hmem List.not_mem_nil, ?_, ?_⟩
    · rw [Rooted.start_of_arguments.disk_of_no_log_file rfl]
      exact ⟨_, [], holds_nothing, rfl, rfl⟩
    · rw [start_of_arguments.disk_of_no_log_file rfl]
      exact ⟨document, _, holds_document, rfl, by cbv⟩

end Dotted

/-- With the dot and without it the folder of the settings file is the root, from whichever folder
the file is loaded. -/
theorem dot_is_folder_of_file :
    (Config.load Dotted.world.wording.malformedYaml Dotted.files Rooted.path).outcome =
        .ok { repoRoot := some "/d" } ∧
      (Config.load Dotted.world.wording.malformedYaml (Dotted.files.inFolder "/d")
        Rooted.path).outcome = .ok { repoRoot := some "/d" } ∧
      (Path.ofString "/d").isAbsolute = true ∧
      (∀ registered, (run Dotted.world epoch registered Rooted.arguments).registered =
        some Rooted.folder) ∧
      ∃ dotted, Dotted.start.root dotted Sample.workspace none = Rooted.folder ∧
        run Dotted.world epoch none Rooted.arguments =
          Dotted.start.resultAt Dotted.world epoch dotted Rooted.folder := by
  obtain ⟨hload, habsolute, hfolder, hdot⟩ := repo_root_is_anchored
  have hreal : Dotted.files.resolve (Rooted.path.parent / Path.ofString ".") =
      .ok Rooted.folder := by cbv
  have hread : Config.ofSettings (Yaml.Value.settings (Dotted.document.pairs (.mapping 0))) =
      .ok { repoRoot := some "." } := by cbv
  have hloaded (words : String → String) : (Config.load words Dotted.files Rooted.path).outcome =
      .ok { repoRoot := some "/d" } :=
    (hload _ _ _ _).mpr ⟨{ repoRoot := some "." },
      ⟨Dotted.document, _, Dotted.holds_document, rfl, hread⟩,
      .moved rfl (by decide) (by decide) hreal⟩
  have habsent := habsolute _ Dotted.files Rooted.path _ (by decide) (hloaded fun _ => "")
  obtain ⟨hregistered, hboth, -, hroot⟩ := hdot _ _ _ _ _ _ _ (by decide) Dotted.dotRooted
  obtain ⟨dotted, hdotted⟩ := hboth.mp ⟨_, Rooted.settings_eq⟩
  obtain ⟨root, hsilent, hsame, hrun⟩ := hroot _ dotted Sample.workspace none Rooted.settings_eq
    hdotted (.resolve _ _ _ _)
  have hfound := (Start.rootOf_iff Rooted.settings_eq).mp Rooted.rootOf
  obtain rfl : Rooted.folder = root := hfound.symm.trans hsilent
  refine ⟨hloaded _, ?_, ?_, fun registered => ?_, dotted, hsame, (hrun none).2⟩
  · rw [hfolder _ _ _ _ rfl]
    exact hloaded _
  · rcases habsent with hnone | hempty | ⟨text, htext, hroot⟩
    · cases hnone
    · exact absurd (Option.some.inj hempty) (by decide)
    · exact Option.some.inj htext ▸ hroot
  · rw [hregistered, registered_run_of_start Rooted.start_of_arguments, Rooted.settings_eq]

end ProductionClosure.CommandLine

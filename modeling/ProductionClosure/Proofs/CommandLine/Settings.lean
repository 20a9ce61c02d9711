import Mathlib
import ProductionClosure.Proofs.CommandLine.Arguments
import ProductionClosure.Proofs.CommandLine.Execution
import ProductionClosure.Proofs.Config.Loading

/-!
The settings of a run that cannot be loaded. A word on the settings file becomes a line of its own
on standard error and exit code 1, whatever the command; a failure that loading is not prepared for
ends the run uncaught.
-/

namespace ProductionClosure.CommandLine

def Start.SettingsAt (start : Start) (path : Path) : Prop :=
  settingsPath start.files start.invocation.configPath (start.command.start start.files) =
    .ok (some path)

def Start.loading (start : Start) (world : World) (moment : Log.Moment) (path : Path) :
    Run Config :=
  Config.load world.wording.malformedYaml (start.disk world moment [.configLoading path]) path

/-- A run that ends with nothing but a line on what is wrong with the settings file. -/
def Start.refusal (start : Start) (world : World) (moment : Log.Moment) (registered : Option Path)
    (path : Path) (fault : Config.Fault) : Result :=
  let events := (start.loading world moment path).events
  { exitCode := 1, stdout := "",
    stderr := start.console world moment events ++ line s!"❌ {fault.message}",
    registered, files := start.disk world moment events }

/-- A run that an uncaught failure ends while the settings are loaded. -/
def Start.crash (start : Start) (world : World) (moment : Log.Moment) (registered : Option Path)
    (path : Path) (failure : Failure) : Result :=
  let events := (start.loading world moment path).events
  { exitCode := 1, stdout := "", stderr := start.console world moment events,
    failure := some failure, registered, files := start.disk world moment events }

section

variable {world : World} {moment : Log.Moment} {registered : Option Path} {start : Start}
  {path : Path}

@[simp] theorem lines_singleton (text : String) : lines [text] = line text := by
  simp [lines, String.join]

@[simp] theorem Start.calls_loading : (start.loading world moment path).calls = [] :=
  Config.calls_load

theorem Start.settings_of_error {failure : Failure} (hpath : start.SettingsAt path)
    (h : (start.loading world moment path).outcome = .error failure) :
    start.settings world moment =
      { start.loading world moment path with outcome := .error failure } :=
  loadSettings_of_error hpath h

theorem Start.result_of_fault {fault : Config.Fault} (hpath : start.SettingsAt path)
    (h : (start.loading world moment path).outcome = .error (.config fault)) :
    start.result world moment registered = start.refusal world moment registered path fault := by
  have hsettings := Start.settings_of_error hpath h
  rw [Start.result, Start.carryOut_of_unsettled (by rw [hsettings]), hsettings]
  dsimp only
  rw [Result.ofRun_of_ok rfl]
  simp [Start.refusal, complaint]

theorem Start.result_of_failure {failure : Failure} (hpath : start.SettingsAt path)
    (h : (start.loading world moment path).outcome = .error failure)
    (hfailure : ∀ fault, failure ≠ .config fault) :
    start.result world moment registered = start.crash world moment registered path failure := by
  have hsettings := Start.settings_of_error hpath h
  rw [Start.result, Start.carryOut_of_unsettled (by rw [hsettings]), hsettings,
    Start.unsettled_of_ne hfailure]
  dsimp only
  rw [Result.ofRun_of_error rfl]
  simp [Start.crash]

end

/-- Loading fails with a word on the settings file or with a failure that it is not prepared for,
each exactly for its own causes, so it keeps to settings and words on the file exactly where nothing
escapes. A run whose settings are in such a file ends with a line on the fault, and uncaught with
what escapes, whatever its command. -/
theorem settings_refused_unless_escaped (words : String → String) (files : FileSystem)
    (path : Path) :
    (∀ failure, (Config.load words files path).outcome = .error failure ↔
      (∃ fault, failure = .config fault ∧ Config.Refuses words files path fault) ∨
        Config.Escapes files path failure) ∧
    (((∃ config, (Config.load words files path).outcome = .ok config) ∨
        ∃ fault, (Config.load words files path).outcome = .error (.config fault)) ↔
      ∀ failure, ¬ Config.Escapes files path failure) ∧
    ∀ world moment registered arguments start,
      Start.Of world arguments start → start.SettingsAt path →
      start.disk world moment [.configLoading path] = files →
        (∀ fault, Config.Refuses world.wording.malformedYaml files path fault →
          run world moment registered arguments =
            start.refusal world moment registered path fault) ∧
        ∀ failure, Config.Escapes files path failure →
          run world moment registered arguments =
            start.crash world moment registered path failure := by
  refine ⟨fun failure => Config.outcome_load_eq_error, ⟨?_, ?_⟩, ?_⟩
  · intro hkept failure hescapes
    have hload := hescapes.outcome_load words
    rcases hkept with ⟨config, hok⟩ | ⟨fault, hfault⟩
    · rw [hload] at hok
      cases hok
    · rw [hload] at hfault
      cases hfault
      exact hescapes.not_config fault rfl
  · intro hnothing
    cases hload : (Config.load words files path).outcome with
    | ok config => exact Or.inl ⟨config, rfl⟩
    | error failure =>
      rcases Config.outcome_load_eq_error.mp hload with ⟨fault, rfl, -⟩ | hescapes
      · exact Or.inr ⟨fault, rfl⟩
      · exact absurd hescapes (hnothing failure)
  · rintro world moment registered arguments start hstart hpath rfl
    rw [run_of_start hstart]
    constructor
    · intro fault hrefuses
      exact Start.result_of_fault hpath hrefuses.outcome_load
    · intro failure hescapes
      exact Start.result_of_failure hpath (hescapes.outcome_load _) hescapes.not_config

namespace Undecodable

def world : World where
  files := ⟨[(["c"], .file [0xff] true)], "/"⟩
  tools := {}
  environment := []

def arguments (file : String) : List String := ["--config", file, "resolve", "/"]

def start (path : Path) : Start where
  invocation := ⟨{}, some path, .resolve, ["/"]⟩
  logging := plainLogging
  files := world.files
  command := .resolve ⟨.root, []⟩ none true false

def path : Path := ⟨.root, ["c"]⟩

def nowhere : Path := ⟨.root, ["d"]⟩

theorem start_of_config {file : String} {path : Path}
    (hconfig : configArgument world.files file = .ok (some path)) :
    Start.Of world (arguments file) (start path) where
  invoked := by
    have hread : readGlobal (arguments file) =
        .ok ({ configPath := some file }, ["resolve", "/"]) := rfl
    rw [readInvocation_of_no_info hread rfl]
    show configArgument world.files file >>= _ = _
    rw [hconfig]
    rfl
  logged := setup_start_plain world.files
  read := readCommand_resolve_root world.files

theorem start_path : Start.Of world (arguments "/c") (start path) :=
  start_of_config (by cbv)

theorem start_nowhere : Start.Of world (arguments "/d") (start nowhere) :=
  start_of_config (by cbv)

theorem escapes_path :
    Config.Escapes world.files path (.undecodable ⟨0, 1, 0xff, .badLead⟩) := by
  have hread : world.files.read path.toString = .ok [0xff] := by cbv
  exact .undecodable hread (by cbv)

theorem refuses_nowhere (words : String → String) :
    Config.Refuses words world.files nowhere (.missing nowhere) := by
  have hfile : world.files.isFile? nowhere = .ok false := by cbv
  exact .missing hfile

end Undecodable

/-- A settings file that is missing is answered, and one that is no text ends the run uncaught. -/
theorem undecodable_settings_escape :
    run Undecodable.world epoch none (Undecodable.arguments "/d") =
      (Undecodable.start Undecodable.nowhere).refusal Undecodable.world epoch none
        Undecodable.nowhere (.missing Undecodable.nowhere) ∧
    run Undecodable.world epoch none (Undecodable.arguments "/c") =
      (Undecodable.start Undecodable.path).crash Undecodable.world epoch none
        Undecodable.path (.undecodable ⟨0, 1, 0xff, .badLead⟩) :=
  ⟨((settings_refused_unless_escaped Undecodable.world.wording.malformedYaml _ _).2.2 _ _ _ _ _
      Undecodable.start_nowhere rfl rfl).1 _ (Undecodable.refuses_nowhere _),
    ((settings_refused_unless_escaped Undecodable.world.wording.malformedYaml _ _).2.2 _ _ _ _ _
      Undecodable.start_path rfl rfl).2 _ Undecodable.escapes_path⟩

/-- Not every settings file that cannot be loaded is answered with a word on it. -/
theorem not_every_settings_failure_is_told :
    ¬ ∀ words files path, (∃ config, (Config.load words files path).outcome = .ok config) ∨
      ∃ fault, (Config.load words files path).outcome = .error (.config fault) := by
  intro htold
  let words := Undecodable.world.wording.malformedYaml
  have hload := Undecodable.escapes_path.outcome_load words
  rcases htold words Undecodable.world.files Undecodable.path with ⟨config, hok⟩ | ⟨fault, hfault⟩
  · rw [hload] at hok
    cases hok
  · rw [hload] at hfault
    cases hfault

end ProductionClosure.CommandLine

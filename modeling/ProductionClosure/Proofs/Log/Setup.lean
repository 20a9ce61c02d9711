import ProductionClosure.Log.Setup
import ProductionClosure.Proofs.FileSystem.Growth
import ProductionClosure.Proofs.Outcome
import ProductionClosure.Proofs.Table

/-!
What a setup asks for and what comes of it. The name of a level is read in capitals, and whatever
names none means WARNING. The root lets through what either handler takes, so that each of them gets
the records that reach its own level. A setup that opens a log file opens the same one after files
were made and written to, and one that opens none opens none then.
-/

namespace ProductionClosure.Log

/-! ### Levels -/

namespace Level

variable {setting : String} {level : Level}

theorem ofSetting_of_named (h : (inCapitals setting, level) ∈ named) :
    ofSetting setting = level := by
  rw [ofSetting, (Table.lookup_eq_some_iff_mem (by decide)).mpr h]
  rfl

theorem ofSetting_of_unnamed (h : ∀ level, (inCapitals setting, level) ∉ named) :
    ofSetting setting = warning := by
  cases hlookup : named.lookup (inCapitals setting) with
  | none =>
    rw [ofSetting, hlookup]
    rfl
  | some found => exact absurd (Table.mem_of_lookup hlookup) (h found)

end Level

@[simp] theorem Handler.level_console (level : Level) : (Handler.console level).level = level := by
  unfold console
  split
  · rfl
  · split <;> rfl

@[simp] theorem Handler.level_file (level : Level) : (Handler.file level).level = level := rfl

/-! ### The two thresholds -/

theorem Logging.rootLevel_le {logging : Logging} {handler : Handler}
    (h : handler ∈ logging.handlers) : logging.rootLevel ≤ handler.level := by
  obtain ⟨console, file⟩ := logging
  cases file with
  | none =>
    obtain rfl := List.mem_singleton.mp h
    exact Int.le_refl _
  | some opened =>
    obtain ⟨own, place⟩ := opened
    have hboth : handler = console ∨ handler = own := by simpa [handlers] using h
    obtain rfl | rfl := hboth
    · exact Int.min_le_left _ _
    · exact Int.min_le_right _ _

/-- A record that reaches the level of a handler is not kept from it by the root, unless its level
is switched off. -/
theorem Logging.reaches_iff {logging : Logging} {handler : Handler}
    (h : handler ∈ logging.handlers) (record : Record) :
    (logging.passes record = true ∧ handler.accepts record = true) ↔
      0 < record.level ∧ handler.level ≤ record.level := by
  simp only [passes, Handler.accepts, Bool.and_eq_true, decide_eq_true_eq]
  constructor
  · rintro ⟨⟨hpositive, -⟩, haccepted⟩
    exact ⟨hpositive, haccepted⟩
  · rintro ⟨hpositive, haccepted⟩
    exact ⟨⟨hpositive, Int.le_trans (rootLevel_le h) haccepted⟩, haccepted⟩

/-! ### Setting up -/

namespace Setup

variable {setup : Setup} {files before after : FileSystem} {logging : Logging} {failure : Failure}

theorem fileName?_eq_some {name : String} :
    setup.fileName? = some name ↔ setup.file = some name ∧ name ≠ "" := by
  simp [fileName?, Option.filter_eq_some_iff]

def filePath (files : FileSystem) (name : String) : String :=
  (files.absoluteText (Path.ofString name)).toString

/-- How logging can be set up. -/
inductive Starts (setup : Setup) (files : FileSystem) : Logging → FileSystem → Prop where
  | console (hname : setup.fileName? = none) :
      Starts setup files { console := .console setup.consoleLevel } files
  | file {name : String} {place : Place} {after : FileSystem} (hname : setup.fileName? = some name)
      (hopened : files.openForAppending (filePath files name) = .ok (place, after)) :
      Starts setup files
        { console := .console setup.consoleLevel, file := some (.file setup.levelOfFile, place) }
        after

theorem start_eq_ok :
    setup.start files = .ok (logging, after) ↔ Starts setup files logging after := by
  constructor
  · intro h
    unfold start at h
    cases hname : setup.fileName? with
    | none =>
      simp only [hname] at h
      cases h
      exact .console hname
    | some name =>
      simp only [hname] at h
      obtain ⟨⟨place, opened⟩, hopened, h⟩ := Outcome.bind_eq_ok.mp h
      cases h
      exact .file hname (Outcome.mapError_eq_ok.mp hopened)
  · intro h
    cases h with
    | console hname => simp only [start, hname]
    | file hname hopened =>
      simp only [start, hname]
      exact Outcome.bind_eq_ok.mpr ⟨_, Outcome.mapError_eq_ok.mpr hopened, rfl⟩

/-- Nothing but the opening of the log file can fail. -/
theorem start_eq_error : setup.start files = .error failure ↔
    ∃ name problem, setup.fileName? = some name ∧
      files.openForAppending (filePath files name) = .error problem ∧
      failure = .file problem (filePath files name) := by
  unfold start
  cases hname : setup.fileName? with
  | none => simp
  | some name =>
    simp only [Outcome.bind_eq_error, Outcome.mapError_eq_error, filePath]
    constructor
    · rintro (⟨problem, hproblem, rfl⟩ | ⟨_, _, hdone⟩)
      · exact ⟨name, problem, rfl, hproblem, rfl⟩
      · cases hdone
    · rintro ⟨_, problem, hsame, hproblem, rfl⟩
      cases hsame
      exact Or.inl ⟨problem, hproblem, rfl⟩

theorem Starts.grown (h : Starts setup files logging after) : FileSystem.Grown files after := by
  cases h with
  | console => exact .refl files
  | file hname hopened => exact (FileSystem.hasFile_of_openForAppending hopened).1

/-- A log file is there when logging is set up. -/
theorem Starts.hasFile (h : Starts setup files logging after) {handler : Handler} {place : Place}
    (hfile : logging.file = some (handler, place)) : after.HasFile place := by
  cases h with
  | console => cases hfile
  | file hname hopened =>
    cases hfile
    exact (FileSystem.hasFile_of_openForAppending hopened).2

theorem filePath_of_folder (h : after.workingFolder = before.workingFolder) (name : String) :
    filePath after name = filePath before name := by
  simp only [filePath, FileSystem.absoluteText, FileSystem.absolute, h]

/-- Whatever files were made and written to before: the same setups succeed, with the same
handlers. -/
theorem starts_of_grown (h : FileSystem.Grown before after) :
    (∃ files, Starts setup after logging files) ↔ ∃ files, Starts setup before logging files := by
  have hpath := filePath_of_folder h.folder
  constructor
  · rintro ⟨files, hstarts⟩
    cases hstarts with
    | console hname => exact ⟨before, .console hname⟩
    | file hname hopened =>
      rw [hpath] at hopened
      obtain ⟨opened, hopened'⟩ := h.openForAppending_iff.mp ⟨files, hopened⟩
      exact ⟨opened, .file hname hopened'⟩
  · rintro ⟨files, hstarts⟩
    cases hstarts with
    | console hname => exact ⟨after, .console hname⟩
    | file hname hopened =>
      rw [← hpath] at hopened
      obtain ⟨opened, hopened'⟩ := h.openForAppending_iff.mpr ⟨files, hopened⟩
      exact ⟨opened, .file hname hopened'⟩

end Setup

end ProductionClosure.Log

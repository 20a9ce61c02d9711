import Mathlib
import ProductionClosure.Proofs.Log.Delivery

/-!
Setting up logging again and again. A setup that fails leaves its console under the level of the
one before, but a setup that succeeds leaves nothing of those before it: the root is then the one
that it leaves in a process of its own, on the disk as it was when all began. Earlier setups and
records only make the disk grow, and on a disk that has grown the same log files can be opened.
-/

namespace ProductionClosure.Log

open FileSystem (Grown)

variable {setup : Setup} {files later : FileSystem} {logging : Logging} {failure : Failure}

/-! ### A single attempt -/

theorem Root.setUp_of_starts (root : Root) (h : Setup.Starts setup files logging later) :
    root.setUp setup files = (.ok (), .of logging, later) := by
  cases h with
  | console hname =>
    simp only [setUp, hname, Root.of, Logging.rootLevel, Handler.level_console]
    rfl
  | file hname hopened =>
    unfold Setup.filePath at hopened
    simp only [setUp, hname, hopened, Root.of, Logging.rootLevel, Handler.level_console]
    rfl

/-- A setup that fails leaves its console under the level of the one before. -/
theorem Root.setUp_of_error (root : Root) (h : setup.start files = .error failure) :
    root.setUp setup files =
      (.error failure, root.clear.add { handler := .console setup.consoleLevel }, files) := by
  obtain ⟨name, problem, hname, hproblem, rfl⟩ := Setup.start_eq_error.mp h
  unfold Setup.filePath at hproblem
  simp only [setUp, hname, hproblem]
  rfl

namespace Process

variable {process : Process} {moment : Moment} {tried : Attempt}

def reported (moment : Moment) (tried : Attempt) : List (Moment × Record) :=
  tried.report.map fun event => (moment, event.record)

theorem attempt_of_starts (h : Setup.Starts tried.setup process.files logging files)
    (moment : Moment) :
    process.attempt moment tried =
      (.ok (), ({ process with root := .of logging, files }).logAll (reported moment tried)) := by
  simp only [Process.attempt, Root.setUp_of_starts process.root h]
  rfl

theorem attempt_of_error (h : tried.setup.start process.files = .error failure) (moment : Moment) :
    process.attempt moment tried =
      (.error failure,
        { process with
          root := process.root.clear.add { handler := .console tried.setup.consoleLevel } }) := by
  simp only [Process.attempt, Root.setUp_of_error process.root h]

theorem attempt_eq_ok_iff :
    (process.attempt moment tried).1 = .ok () ↔
      ∃ logging files, Setup.Starts tried.setup process.files logging files := by
  constructor
  · intro h
    cases hstart : tried.setup.start process.files with
    | ok ending => exact ⟨ending.1, ending.2, Setup.start_eq_ok.mp hstart⟩
    | error failure =>
      rw [attempt_of_error hstart] at h
      cases h
  · rintro ⟨logging, files, hstarts⟩
    rw [attempt_of_starts hstarts]

/-! ### What every step keeps -/

theorem filesInUse_fresh (files : FileSystem) : ({ files } : Process).FilesInUse := nofun

theorem filesInUse_of_starts (h : Setup.Starts setup files logging later) (shown : String) :
    FilesInUse ⟨.of logging, later, shown⟩ := by
  intro outlet hmem place hplace
  obtain rfl | hopened := List.mem_cons.mp hmem
  · cases hplace
  · rw [Option.mem_toList, Option.map_eq_some_iff] at hopened
    obtain ⟨⟨handler, own⟩, hfile, rfl⟩ := hopened
    cases hplace
    exact h.hasFile hfile

/-- Whatever was in use before, the log file of an attempt is there. -/
theorem filesInUse_attempt (process : Process) (moment : Moment) (tried : Attempt) :
    (process.attempt moment tried).2.FilesInUse ∧
      Grown process.files (process.attempt moment tried).2.files := by
  cases hstart : tried.setup.start process.files with
  | ok ending =>
    obtain ⟨logging, files⟩ := ending
    have hstarts := Setup.start_eq_ok.mp hstart
    have hready := filesInUse_of_starts hstarts process.shown
    have hlogged := hready.logAll (reported moment tried)
    rw [attempt_of_starts hstarts]
    exact ⟨hready.continues hlogged, hstarts.grown.trans hlogged.files⟩
  | error failure =>
    rw [attempt_of_error hstart]
    refine ⟨fun outlet hmem place hplace => ?_, .refl process.files⟩
    obtain rfl := List.mem_singleton.mp hmem
    cases hplace

theorem FilesInUse.step (h : process.FilesInUse) (moment : Moment) (step : Step) :
    (process.step moment step).FilesInUse ∧
      Grown process.files (process.step moment step).files := by
  cases step with
  | attempt tried => exact filesInUse_attempt process moment tried
  | log record =>
    have hlogged := h.log moment record
    exact ⟨h.continues hlogged, hlogged.files⟩

theorem FilesInUse.after (h : process.FilesInUse) (history : List (Moment × Step)) :
    (process.after history).FilesInUse ∧ Grown process.files (process.after history).files := by
  induction history generalizing process with
  | nil => exact ⟨h, .refl process.files⟩
  | cons happened rest ih =>
    obtain ⟨hstep, hgrown⟩ := h.step happened.1 happened.2
    obtain ⟨hafter, hmore⟩ := ih hstep
    exact ⟨hafter, hgrown.trans hmore⟩

end Process

/-- A setup succeeds after a history if and only if it succeeds alone. -/
theorem Process.attempt_after_eq_ok_iff {history : List (Moment × Process.Step)} {moment : Moment}
    {tried : Attempt} :
    ((({ files } : Process).after history).attempt moment tried).1 = .ok () ↔
      (({ files } : Process).attempt moment tried).1 = .ok () := by
  have hgrown := ((Process.filesInUse_fresh files).after history).2
  rw [Process.attempt_eq_ok_iff, Process.attempt_eq_ok_iff]
  exact exists_congr fun logging => Setup.starts_of_grown hgrown

theorem Setup.Starts.root_of_attempt {process : Process} {tried : Attempt}
    (h : Starts tried.setup process.files logging files) (moment : Moment) :
    (process.attempt moment tried).2.root = .of logging := by
  rw [Process.attempt_of_starts h]
  exact ((Process.filesInUse_of_starts h process.shown).logAll _).root

/-! ### Setups in force -/

/-- A setup in force: there is a console, and a log file exactly if one is named, and each of the
two gets the records that reach its own level. -/
structure Setup.InForce (setup : Setup) (process : Process) : Prop where
  consoleAlone : (∀ name, setup.file = some name → name = "") →
    process.root.outlets = [{ handler := .console setup.consoleLevel }] ∧
      process.root.level = setup.consoleLevel
  withFile : ∀ name, setup.file = some name → name ≠ "" → ∃ place,
    process.root.outlets =
        [{ handler := .console setup.consoleLevel }, ⟨.file setup.levelOfFile, some place⟩] ∧
      process.root.level = min setup.consoleLevel setup.levelOfFile ∧
      process.files.HasFile place
  shown : ∀ records, (process.logAll records).shown =
    process.shown ++ (Handler.console setup.consoleLevel).due records
  written : ∀ records place content,
    ⟨.file setup.levelOfFile, some place⟩ ∈ process.root.outlets →
      process.files.entry? place = some (.file content true) →
        (process.logAll records).files.entry? place =
          some (.file (content ++
            Text.encodeUtf8 ((Handler.file setup.levelOfFile).due records)) true)

theorem Setup.Starts.inForce {before : FileSystem} {process : Process}
    (h : Starts setup before logging later) (hroot : process.root = .of logging)
    (hfiles : process.FilesInUse) : setup.InForce process := by
  have hdelivered := hfiles.logAll_of hroot
  cases h with
  | console hname =>
    refine ⟨fun _ => ?_, fun name hfile hne => ?_, fun records => (hdelivered records).shown,
      fun records place content hmem hentry => ?_⟩
    · simp [hroot, Root.of, Logging.rootLevel]
    · rw [Setup.fileName?_eq_some.mpr ⟨hfile, hne⟩] at hname
      cases hname
    · simp [hroot, Root.of] at hmem
  | @file name place _ hname hopened =>
    obtain ⟨hfile, hne⟩ := Setup.fileName?_eq_some.mp hname
    have hlevel : process.root.level = min setup.consoleLevel setup.levelOfFile := by
      simp [hroot, Root.of, Logging.rootLevel]
    have hthere : process.files.HasFile place := by
      refine hfiles ⟨.file setup.levelOfFile, some place⟩ ?_ place rfl
      simp [hroot, Root.of]
    refine ⟨fun hnone => absurd (hnone name hfile) hne, fun _ _ _ => ⟨place, ?_, hlevel, hthere⟩,
      fun records => (hdelivered records).shown, fun records own content hmem hentry => ?_⟩
    · rw [hroot]
      rfl
    · obtain rfl : own = place := by simpa [hroot, Root.of] using hmem
      exact (hdelivered records).written _ own content rfl hentry

/-- Whatever was set up before, with or without success, and whatever was logged: a setup that
succeeds would have succeeded alone, in a fresh process on the disk as it was when all began, and it
leaves the root that it would have left there. The console then gets the records that reach its
level and the log file those that reach its own, levels from zero down being switched off; and what
names no level means WARNING. -/
theorem setup_keeps_no_history (files : FileSystem) (history : List (Moment × Process.Step))
    (moment : Moment) (tried : Attempt)
    (h : ((({ files } : Process).after history).attempt moment tried).1 = .ok ()) :
    (({ files } : Process).attempt moment tried).1 = .ok () ∧
      ((({ files } : Process).after history).attempt moment tried).2.root =
        (({ files } : Process).attempt moment tried).2.root ∧
      tried.setup.InForce ((({ files } : Process).after history).attempt moment tried).2 ∧
      (∀ (handler : Handler) moment record, handler.due [(moment, record)] ≠ "" ↔
        0 < record.level ∧ handler.level ≤ record.level) ∧
      (∀ text level, (Level.inCapitals text, level) ∈ Level.named → Level.ofSetting text = level) ∧
      ∀ text, (∀ level, (Level.inCapitals text, level) ∉ Level.named) →
        Level.ofSetting text = Level.warning := by
  have hgrown := ((Process.filesInUse_fresh files).after history).2
  obtain ⟨logging, opened, hstarts⟩ := Process.attempt_eq_ok_iff.mp h
  have hroot := hstarts.root_of_attempt moment
  -- on the disk as it was the same setup succeeds, with the same handlers
  obtain ⟨alone, hstartsAlone⟩ := (Setup.starts_of_grown hgrown).mp ⟨opened, hstarts⟩
  have hrootAlone := hstartsAlone.root_of_attempt moment
  refine ⟨Process.attempt_after_eq_ok_iff.mp h, hroot.trans hrootAlone.symm,
    hstarts.inForce hroot (Process.filesInUse_attempt _ moment tried).1, ?_, ?_, ?_⟩
  · exact fun handler moment record => handler.due_ne_empty_iff moment record
  · exact fun text level hnamed => Level.ofSetting_of_named hnamed
  · exact fun text hunnamed => Level.ofSetting_of_unnamed hunnamed

namespace Sample

def midnight : Moment := ⟨"1970-01-01", "00:00:00"⟩

def logFolder : FileSystem := ⟨[(["d"], .directory)], "/"⟩

def earlier : List (Moment × Process.Step) :=
  [(midnight, .attempt (.direct { level := "DEBUG", file := some "/d" })),
    (midnight, .log ⟨30, "prodeps", "early"⟩),
    (midnight,
      .attempt (.direct { level := "ERROR", file := some "/d/old", fileLevel := some "INFO" })),
    (midnight, .log ⟨20, "prodeps", "late"⟩)]

def loud : Attempt :=
  .ofCommand {} [("PRODEPS_LOG_LEVEL", "loud"), ("PRODEPS_LOG_FILE", "d/new"),
    ("PRODEPS_LOG_FILE_LEVEL", "debug")]

def loudLogging : Logging where
  console := .console Level.warning
  file := some (.file Level.debug, ["d", "new"])

theorem exists_starts_loud : ∃ opened, Setup.Starts loud.setup logFolder loudLogging opened := by
  have hconsole : loud.setup.consoleLevel = Level.warning := by cbv
  have hfile : loud.setup.levelOfFile = Level.debug := by cbv
  have hname : loud.setup.fileName? = some "d/new" := by cbv
  have hopened : logFolder.openForAppending (Setup.filePath logFolder "d/new") =
      .ok (["d", "new"], ⟨[(["d", "new"], .file [] true), (["d"], .directory)], "/"⟩) := by cbv
  have hstarts := Setup.Starts.file hname hopened
  rw [hconsole, hfile] at hstarts
  exact ⟨_, hstarts⟩

end Sample

/-- The console of the setup that failed, its level and the first log file are forgotten. -/
theorem last_setup_counts_alone :
    (({ files := Sample.logFolder } : Process).attempt Sample.midnight
        (.direct { level := "DEBUG", file := some "/d" })).1 = .error (.file .isDirectory "/d") ∧
      let last := (({ files := Sample.logFolder } : Process).after Sample.earlier).attempt
        Sample.midnight Sample.loud
      last.1 = .ok () ∧ last.2.root = .of Sample.loudLogging ∧
        (last.2.logAll [(Sample.midnight, ⟨20, "prodeps", "told"⟩)]).shown = last.2.shown := by
  obtain ⟨opened, hstarts⟩ := Sample.exists_starts_loud
  have hlast : ((({ files := Sample.logFolder } : Process).after Sample.earlier).attempt
      Sample.midnight Sample.loud).1 = .ok () :=
    Process.attempt_after_eq_ok_iff.mpr (Process.attempt_eq_ok_iff.mpr ⟨_, opened, hstarts⟩)
  obtain ⟨-, hroot, hforce, -⟩ :=
    setup_keeps_no_history Sample.logFolder Sample.earlier Sample.midnight Sample.loud hlast
  refine ⟨by cbv, hlast, ?_, ?_⟩
  · rw [hroot]
    exact hstarts.root_of_attempt Sample.midnight
  · rw [hforce.shown]
    have hdue : (Handler.console Sample.loud.setup.consoleLevel).due
        [(Sample.midnight, ⟨20, "prodeps", "told"⟩)] = "" := by cbv
    rw [hdue, String.append_empty]

/-- A record of level zero reaches a console of level zero, and is not shown. -/
theorem level_zero_is_switched_off :
    ¬ ∀ (files : FileSystem) (history : List (Moment × Process.Step)) (moment : Moment)
        (tried : Attempt) (record : Record),
      ((({ files } : Process).after history).attempt moment tried).1 = .ok () →
        let later := ((({ files } : Process).after history).attempt moment tried).2
        (later.log moment record).shown ≠ later.shown ↔
          tried.setup.consoleLevel ≤ record.level := by
  intro hdelivered
  have hshown := hdelivered .empty [] Sample.midnight (.direct { level := "NOTSET" })
    ⟨0, "prodeps", "m"⟩ (by rfl)
  exact hshown.mpr (by decide) (by rfl)

end ProductionClosure.Log

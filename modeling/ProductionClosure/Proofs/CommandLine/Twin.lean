import ProductionClosure.Proofs.CommandLine.Arguments
import ProductionClosure.Proofs.CommandLine.Execution
import ProductionClosure.Proofs.FileSystem.Sound
import ProductionClosure.Proofs.Log.Setup

/-!
One command line on two disks. While it is read, nobody looks into a file: on a disk with other
contents of files the same command line leads to the same command, with the same settings file. Its
settings are then loaded from a disk that the log may have been written to, and real paths on that
disk are those from before.
-/

namespace ProductionClosure

namespace FileSystem

variable {fs other : FileSystem}

/-- What may be found at a path of two disks of one shape. -/
inductive SameStatus : Except FileProblem Entry → Except FileProblem Entry → Prop where
  | error (problem : FileProblem) : SameStatus (.error problem) (.error problem)
  | directory : SameStatus (.ok .directory) (.ok .directory)
  | link (target : String) : SameStatus (.ok (.link target)) (.ok (.link target))
  | file (content more : List UInt8) (readable : Bool) :
      SameStatus (.ok (.file content readable)) (.ok (.file more readable))

theorem SameShape.sameStatus (h : SameShape fs other) (path : String) :
    SameStatus (fs.status path) (other.status path) := by
  have hstatus := h.agree.status path (Or.inl h.folder)
  cases hfound : fs.status path with
  | error problem =>
    rw [hfound] at hstatus
    rw [Outcome.map_eq_error.mp hstatus]
    exact .error problem
  | ok entry =>
    rw [hfound] at hstatus
    obtain ⟨entry', hother, houtline⟩ := Outcome.map_eq_ok.mp hstatus
    rw [hother]
    cases entry with
    | directory =>
      rw [Entry.outline_eq_directory.mp houtline]
      exact .directory
    | link target =>
      rw [Entry.outline_eq_link.mp houtline]
      exact .link target
    | file content readable =>
      obtain ⟨more, rfl⟩ := Entry.outline_eq_file.mp houtline
      exact .file content more readable

end FileSystem

namespace Config

variable {fs other : FileSystem}

theorem findUpward_of_shape (h : FileSystem.SameShape fs other) (depth : Nat) (folder : Path) :
    findUpward other depth folder = findUpward fs depth folder := by
  induction depth generalizing folder with
  | zero => rfl
  | succ depth ih =>
    have hfile : ∀ path, other.isFile? path = fs.isFile? path :=
      h.ask_eq fun entry => by cases entry <;> rfl
    simp only [findUpward, FileSystem.answer, hfile, ih]

theorem find_of_shape (h : FileSystem.SameShape fs other) (start : Path) :
    find other start = find fs start := by
  simp only [find, FileSystem.resolved, h.resolve_eq, findUpward_of_shape h]

end Config

namespace CommandLine

variable {fs other : FileSystem}

/-! ### Reading the command line -/

section

variable (h : FileSystem.SameShape fs other)
include h

theorem configArgument_of_shape (path : String) :
    configArgument other path = configArgument fs path := by
  have hstatus := h.sameStatus path
  unfold configArgument
  generalize fs.status path = status at hstatus ⊢
  generalize other.status path = status' at hstatus ⊢
  cases hstatus with
  | file _ _ readable => cases readable <;> rfl
  | error | directory | link => rfl

theorem folderArgument_of_shape (path : String) :
    folderArgument other path = folderArgument fs path := by
  have hstatus := h.sameStatus path
  unfold folderArgument
  generalize fs.status path = status at hstatus ⊢
  generalize other.status path = status' at hstatus ⊢
  cases hstatus <;> rfl

theorem readInvocation_of_shape (arguments : List String) :
    readInvocation other arguments = readInvocation fs arguments := by
  simp only [readInvocation, configArgument_of_shape h]

theorem readCommand_of_shape (name : CommandName) (arguments : List String) :
    readCommand other name arguments = readCommand fs name arguments := by
  simp only [readCommand, readFolders, folderArgument_of_shape h]

theorem settingsPath_of_shape (named : Option Path) (folder : Path) :
    settingsPath other named folder = settingsPath fs named folder := by
  cases named with
  | some path => rfl
  | none => exact Config.find_of_shape h folder

theorem start_of_shape (command : Command) : command.start other = command.start fs := by
  cases command <;> simp only [Command.start, FileSystem.absolute, h.folder]

end

/-! ### Setting up logging -/

theorem setup_start_of_outline {setup : Log.Setup} {logging : Log.Logging} {after : FileSystem}
    (houtline : fs.outline = other.outline) (h : setup.start fs = .ok (logging, after)) :
    ∃ after', setup.start other = .ok (logging, after') ∧ after.outline = after'.outline := by
  have hpath := Log.Setup.filePath_of_folder (FileSystem.sameShape_of_outline houtline).folder
  cases Log.Setup.start_eq_ok.mp h with
  | console hname => exact ⟨other, Log.Setup.start_eq_ok.mpr (.console hname), houtline⟩
  | file hname hopened =>
    obtain ⟨after', hopened', hafter⟩ := FileSystem.openForAppending_of_outline houtline hopened
    rw [← hpath] at hopened'
    exact ⟨after', Log.Setup.start_eq_ok.mpr (.file hname hopened'), hafter⟩

theorem sound_of_setup_start {setup : Log.Setup} {logging : Log.Logging} {after : FileSystem}
    (hsound : fs.Sound) (h : setup.start fs = .ok (logging, after)) : after.Sound := by
  cases Log.Setup.start_eq_ok.mp h with
  | console => exact hsound
  | file hname hopened =>
    obtain ⟨found, hlocate, hopens⟩ := FileSystem.openForAppending_eq_ok.mp hopened
    exact hopens.sound (FileSystem.open_of_locate hlocate).1 hsound

/-! ### Starts -/

namespace Start

variable {world twin : World} {moment : Log.Moment} {arguments : List String}
  {start twinStart : Start}

/-- On a disk with other contents of files the same arguments lead to the same start. -/
theorem Of.exists_twin (h : Of world arguments start)
    (houtline : world.files.outline = twin.files.outline)
    (henvironment : twin.environment = world.environment) :
    ∃ files, start.files.outline = files.outline ∧
      Of twin arguments ⟨start.invocation, start.logging, files, start.command⟩ := by
  obtain ⟨files, hlogged, hfiles⟩ := setup_start_of_outline houtline h.logged
  refine ⟨files, hfiles, ?_, ?_, ?_⟩
  · rw [← h.invoked]
    exact readInvocation_of_shape (FileSystem.sameShape_of_outline houtline) arguments
  · rw [henvironment]
    exact hlogged
  · rw [← h.read]
    exact readCommand_of_shape (FileSystem.sameShape_of_outline hfiles) _ _

theorem Of.eq_twin (h : Of world arguments start)
    (houtline : world.files.outline = twin.files.outline)
    (henvironment : twin.environment = world.environment) (htwin : Of twin arguments twinStart) :
    twinStart.invocation = start.invocation ∧ twinStart.command = start.command ∧
      start.files.outline = twinStart.files.outline := by
  obtain ⟨files, hfiles, hother⟩ := h.exists_twin houtline henvironment
  obtain rfl := hother.unique htwin
  exact ⟨rfl, rfl, hfiles⟩

/-- What is logged leaves all real paths as they are. -/
theorem Of.resolve_disk (h : Of world arguments start) (hsound : world.files.Sound)
    (events : List Event) (path : Path) :
    (start.disk world moment events).resolve path = start.files.resolve path := by
  have hshape : FileSystem.SameShape start.files (start.disk world moment events) := by
    unfold disk Log.Logging.write
    split
    · exact FileSystem.sameShape_of_outline rfl
    · exact (sound_of_setup_start hsound h.logged).sameShape_append _ _
  exact hshape.resolve_eq path

end Start

end CommandLine

end ProductionClosure

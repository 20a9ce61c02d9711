import ProductionClosure.Proofs.CommandLine.Queries
import ProductionClosure.Proofs.Resolution.Coherence
import ProductionClosure.Proofs.Resolution.Unreadable

/-!
What tells how a resolution went. The answer looks whether there is an error, the object made of it
whether there is a text in the error, and the exit code of the command that lists paths follows the
answer. None of them ever contradicts another: an error is never empty, and nothing stands beside
it.
-/

namespace ProductionClosure.CommandLine

/-- All that tells whether a resolution succeeded says the same. -/
structure Tells (resolving : Run Resolution) (resolution : Resolution) (success : Bool) : Prop where
  ok : resolution.ok = success
  draft_ok : resolution.draft.ok = success
  members : resolution.toMembers = resolution.draft.toMembers
  error : resolution.toMembers.get? "error" =
    if success then none else resolution.draft.error.map Json.string
  reportExcerpt : resolution.toMembers.get? "output_excerpt" =
    if success then none else resolution.draft.reportExcerpt.map Json.string
  paths : resolution.toMembers.get? "paths" =
    if success then some (Json.ofStrings resolution.draft.paths) else none
  exitCode : ∀ world moment registered arguments, Attempts world moment arguments resolving →
    (run world moment registered arguments).exitCode = if success then 0 else 1

section

variable {world : World} {moment : Log.Moment} {registered : Option Path}
  {arguments : List String} {resolving : Run Resolution} {resolution : Resolution}

theorem exitCode_showResolution (quiet json : Bool) (resolution : Resolution) :
    (showResolution quiet json resolution).exitCode = if resolution.ok then 0 else 1 := by
  cases resolution with
  | resolved result => exact (showResolution_resolved quiet).1
  | failed => rfl

/-- A run that gets as far as resolving has its exit code from the answer. -/
theorem Attempts.exitCode_run (h : Attempts world moment arguments resolving)
    (hanswer : resolving.outcome = .ok resolution) :
    (run world moment registered arguments).exitCode = if resolution.ok then 0 else 1 := by
  obtain ⟨hstart, hcommand, hsettings⟩ := h
  rw [(Start.run_of_resolution hstart hcommand hsettings hanswer).1]
  exact exitCode_showResolution _ _ _

theorem tells_ok (hanswer : resolving.outcome = .ok resolution)
    (herror : resolution.draft.error ≠ some "") : Tells resolving resolution resolution.ok where
  ok := rfl
  draft_ok := by cases resolution <;> rfl
  members := (Resolution.toMembers_draft herror).symm
  error := by
    cases resolution with
    | resolved result => simp [Resolution.toMembers, Json.Members.get?, Resolution.ok]
    | failed => rfl
  reportExcerpt := by
    cases resolution with
    | resolved result => simp [Resolution.toMembers, Json.Members.get?, Resolution.ok]
    | failed _ _ _ reportExcerpt => cases reportExcerpt <;> rfl
  paths := by
    cases resolution with
    | resolved result => rfl
    | failed => simp [Resolution.toMembers, Json.Members.get?, Resolution.ok]
  exitCode := fun _ _ _ _ h => h.exitCode_run hanswer

end

/-- An answer may be filled in field by field or be put together at once: the run is the same, and
what comes out is an error alone, which tells the beginning of the report exactly if there was a
report that cannot be read, or paths without repetition with counts and an overlay folder that fit
them. The answer, the object made of it and the exit code all tell which of the two it is. -/
theorem resolution_is_coherent (world : World) (config : Config) (workspace repoRoot : Path)
    (wantsOverlay : Bool) :
    Draft.fill world config workspace repoRoot wantsOverlay =
        ((resolve world config workspace repoRoot wantsOverlay).andThen fun resolution =>
          Run.done resolution.draft) ∧
      ∀ resolution,
        (resolve world config workspace repoRoot wantsOverlay).outcome = .ok resolution →
          resolution.draft.workspace = workspace ∧ resolution.draft.repoRoot = repoRoot ∧
          ((resolution.draft.Failed world config ∧
              Tells (resolve world config workspace repoRoot wantsOverlay) resolution false) ∨
            (resolution.draft.Succeeded world.files ∧
              Tells (resolve world config workspace repoRoot wantsOverlay) resolution true)) := by
  refine ⟨Draft.fill_eq world config workspace repoRoot wantsOverlay, fun resolution h => ?_⟩
  obtain ⟨hworkspace, hroot⟩ := Resolution.folders_of_resolve h
  refine ⟨hworkspace, hroot, ?_⟩
  rcases Resolution.failed_or_succeeded h with ⟨hfailed, hok⟩ | ⟨hsucceeded, hok⟩
  · exact Or.inl ⟨hfailed, hok ▸ tells_ok h hfailed.error_ne_empty⟩
  · exact Or.inr ⟨hsucceeded, hok ▸ tells_ok h hsucceeded.error_ne_empty⟩

namespace Judged

def world (octets : List UInt8) : World :=
  { Overlaid.world with
    tools := { listings := [("/", .ended (some octets) none 0),
      ("/.build/distro/npm", Sample.listing Sample.overlayReport)] } }

def resolving (octets : List UInt8) : Run Resolution :=
  resolve (world octets) {} Sample.workspace Sample.workspace true

/-- The command line that lists the paths of the root gets as far as resolving it, whatever its
listing prints. -/
theorem attempts (octets : List UInt8) :
    Attempts (world octets) epoch Overlaid.arguments (resolving octets) := by
  have hresolving : Overlaid.start.resolving (world octets) ⟨{}, none, none⟩ Sample.workspace none
      true = resolving octets := by
    unfold Start.resolving
    rw [show Overlaid.start.files = Overlaid.world.files from rfl, Overlaid.absolute_workspace]
    rfl
  have hstart : Start.Of (world octets) Overlaid.arguments Overlaid.start :=
    ⟨Overlaid.start_of_arguments.invoked, Overlaid.start_of_arguments.logged,
      Overlaid.start_of_arguments.read⟩
  rw [← hresolving]
  exact .intro hstart rfl Overlaid.settings_eq

def printed : List UInt8 := Text.encodeUtf8 Sample.workspaceReport

def broken : List UInt8 := [0x5b, 0x31, 0x5d]

def listed : Resolution :=
  .resolved ⟨Sample.workspace, Sample.workspace, ["/a", "/b"], 1, some Overlaid.folder, 1, []⟩

def unread : Resolution :=
  .failed Sample.workspace Sample.workspace "Expected an object for workspace entry 0, got int"
    (some "[1]")

theorem outcome_printed : (resolving printed).outcome = .ok listed := by
  have hprimary : (resolveWorkspace (world printed) {} Sample.workspace).outcome =
      .ok ⟨Sample.workspace, 1, ["/a"], []⟩ :=
    Sample.outcome_resolveWorkspace (FileSystem.status_root _) rfl
      Sample.reports_workspaceReport (by decide)
  have hoverlay : (resolveWorkspace (world printed) {} Overlaid.folder).outcome =
      .ok ⟨Overlaid.folder, 1, ["/b"], []⟩ :=
    Sample.outcome_resolveWorkspace Overlaid.status_folder rfl Sample.reports_overlayReport
      (by decide)
  have hfound : OverlayFound (world printed).files Sample.workspace Sample.workspace
      ({} : Config).overlayFolder Overlaid.folder := Overlaid.overlayFound
  rw [resolving, outcome_resolve_with_overlay hprimary rfl, outcome_overlayPart_of_found hfound,
    outcome_resolveOverlay_of_ok hoverlay]
  rfl

theorem outcome_broken : (resolving broken).outcome = .ok unread := by
  have hfolder : (world broken).files.isDirectoryText Sample.workspace.toString = true :=
    FileSystem.isDirectoryText_of_status_ok (FileSystem.status_root _)
  have hraw : (queryTree (world broken) ({} : Config).packageManager
      Sample.workspace.toString).outcome = .ok Sample.numberReport := by
    rw [outcome_queryTree_of_ended hfolder rfl, Option.getD_some, broken,
      Sample.printedText_numberReport]
  rw [resolving, outcome_resolve_of_malformed true hraw Sample.outcome_readEntriesOf_numberReport]
  decide

end Judged

/-- A workspace whose paths and overlay are listed, and one with a report that cannot be read. -/
theorem answers_of_both_kinds :
    ((Judged.resolving Judged.printed).outcome = .ok Judged.listed ∧
        Judged.listed.draft.Succeeded Overlaid.world.files ∧
        Attempts (Judged.world Judged.printed) epoch Overlaid.arguments
          (Judged.resolving Judged.printed) ∧
        (run (Judged.world Judged.printed) epoch none Overlaid.arguments).exitCode = 0) ∧
      (Judged.resolving Judged.broken).outcome = .ok Judged.unread ∧
      Judged.unread.draft.Failed (Judged.world Judged.broken) {} ∧
      Attempts (Judged.world Judged.broken) epoch Overlaid.arguments
        (Judged.resolving Judged.broken) ∧
      (run (Judged.world Judged.broken) epoch none Overlaid.arguments).exitCode = 1 := by
  obtain ⟨-, -, hlisted⟩ := (resolution_is_coherent (Judged.world Judged.printed) {}
    Sample.workspace Sample.workspace true).2 _ Judged.outcome_printed
  obtain ⟨-, -, hunread⟩ := (resolution_is_coherent (Judged.world Judged.broken) {}
    Sample.workspace Sample.workspace true).2 _ Judged.outcome_broken
  constructor
  · rcases hlisted with ⟨-, htells⟩ | ⟨hsucceeded, htells⟩
    · cases htells.ok
    · exact ⟨Judged.outcome_printed, hsucceeded, Judged.attempts _,
        htells.exitCode _ _ none _ (Judged.attempts _)⟩
  · rcases hunread with ⟨hfailed, htells⟩ | ⟨-, htells⟩
    · exact ⟨Judged.outcome_broken, hfailed, Judged.attempts _,
        htells.exitCode _ _ none _ (Judged.attempts _)⟩
    · cases htells.ok

end ProductionClosure.CommandLine

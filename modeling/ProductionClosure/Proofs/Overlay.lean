import ProductionClosure.Overlay
import ProductionClosure.Proofs.Closure.FirstMention
import ProductionClosure.Proofs.FileSystem.Lookup
import ProductionClosure.Proofs.Run

/-!
Where the overlay of a workspace is, and what merging it in does to the paths. The search asks for
two real paths and for one folder; each of the three questions can go without an answer, and then
the search ends with a failure and not with "no".
-/

namespace ProductionClosure

/-- The folder that has, below the overlay folder, the position of the workspace below the
repository root. -/
def OverlayAt (files : FileSystem) (workspace repoRoot : Path) (overlayFolder : String)
    (folder : Path) : Prop :=
  ∃ realWorkspace realRoot position, files.realPath workspace = .ok realWorkspace ∧
    files.realPath repoRoot = .ok realRoot ∧
    realWorkspace.relativeTo? realRoot = some position ∧
    realRoot / Path.ofString overlayFolder / position = folder

/-- The place of the overlay, with a folder standing there. -/
def OverlayFound (files : FileSystem) (workspace repoRoot : Path) (overlayFolder : String)
    (folder : Path) : Prop :=
  OverlayAt files workspace repoRoot overlayFolder folder ∧ files.isDirectory? folder = .ok true

/-- A path on the way to the overlay cannot be looked up at all. -/
inductive OverlayLookupRefused (files : FileSystem) (workspace repoRoot : Path)
    (overlayFolder : String) : Prop where
  | workspace (h : files.realPath workspace = .error .nulCharacter)
  | repoRoot (h : files.realPath repoRoot = .error .nulCharacter)
  | folder {folder : Path} (hfolder : OverlayAt files workspace repoRoot overlayFolder folder)
      (h : files.status folder.toString = .error .nameTooLong)

variable {files : FileSystem} {workspace repoRoot folder : Path} {overlayFolder : String}

theorem OverlayAt.found (h : OverlayAt files workspace repoRoot overlayFolder folder)
    (hstatus : files.status folder.toString = .ok .directory) :
    OverlayFound files workspace repoRoot overlayFolder folder := by
  refine ⟨h, ?_⟩
  rw [FileSystem.isDirectory?, FileSystem.ask_of_status_ok hstatus]
  rfl

/-- A workspace has one place for its overlay. -/
theorem OverlayAt.unique {other : Path}
    (h : OverlayAt files workspace repoRoot overlayFolder folder)
    (hother : OverlayAt files workspace repoRoot overlayFolder other) : folder = other := by
  obtain ⟨realWorkspace, realRoot, position, hworkspace, hroot, hposition, rfl⟩ := h
  obtain ⟨_, _, _, hworkspace', hroot', hposition', rfl⟩ := hother
  rw [hworkspace] at hworkspace'
  cases hworkspace'
  rw [hroot] at hroot'
  cases hroot'
  rw [hposition] at hposition'
  cases hposition'
  rfl

/-! ### The search -/

theorem real_eq_ok {path real : Path} :
    files.real path = .ok real ↔ files.realPath path = .ok real :=
  Outcome.mapError_eq_ok

theorem real_eq_error {path : Path} {failure : Failure} :
    files.real path = .error failure ↔
      files.realPath path = .error .nulCharacter ∧
        failure = .file .nulCharacter path.toString := by
  unfold FileSystem.real FileSystem.answer
  rw [Outcome.mapError_eq_error]
  constructor
  · rintro ⟨problem, hproblem, rfl⟩
    obtain rfl := FileSystem.nulCharacter_of_realPath hproblem
    exact ⟨hproblem, rfl⟩
  · rintro ⟨hproblem, rfl⟩
    exact ⟨.nulCharacter, hproblem, rfl⟩

theorem outcome_overlayRoot_of_real {realWorkspace realRoot : Path}
    (hworkspace : files.realPath workspace = .ok realWorkspace)
    (hroot : files.realPath repoRoot = .ok realRoot) :
    (overlayRoot files workspace repoRoot overlayFolder).outcome =
      .ok ((realWorkspace.relativeTo? realRoot).map
        (realRoot / Path.ofString overlayFolder / ·)) := by
  simp only [overlayRoot, Run.bind_eq, real_eq_ok.mpr hworkspace, real_eq_ok.mpr hroot,
    Run.outcome_ok_andThen]
  cases realWorkspace.relativeTo? realRoot <;> rfl

theorem outcome_overlayRoot_eq_some :
    (overlayRoot files workspace repoRoot overlayFolder).outcome = .ok (some folder) ↔
      OverlayAt files workspace repoRoot overlayFolder folder := by
  constructor
  · intro h
    have hsteps := h
    unfold overlayRoot at hsteps
    simp only [Run.bind_eq] at hsteps
    obtain ⟨realWorkspace, hworkspace, hsteps⟩ := Run.outcome_andThen_eq_ok.mp hsteps
    obtain ⟨realRoot, hroot, -⟩ := Run.outcome_andThen_eq_ok.mp hsteps
    rw [Run.outcome_ofExcept, real_eq_ok] at hworkspace hroot
    rw [outcome_overlayRoot_of_real hworkspace hroot, Except.ok.injEq,
      Option.map_eq_some_iff] at h
    obtain ⟨position, hposition, heq⟩ := h
    exact ⟨realWorkspace, realRoot, position, hworkspace, hroot, hposition, heq⟩
  · rintro ⟨realWorkspace, realRoot, position, hworkspace, hroot, hposition, rfl⟩
    rw [outcome_overlayRoot_of_real hworkspace hroot, hposition]
    rfl

theorem nul_of_overlayRoot {failure : Failure}
    (h : (overlayRoot files workspace repoRoot overlayFolder).outcome = .error failure) :
    (files.realPath workspace = .error .nulCharacter ∨
        files.realPath repoRoot = .error .nulCharacter) ∧ failure.isOfResolving = false := by
  cases hworkspace : files.real workspace with
  | error cause =>
    simp only [overlayRoot, Run.bind_eq, hworkspace, Run.outcome_error_andThen] at h
    cases h
    obtain ⟨hnul, rfl⟩ := real_eq_error.mp hworkspace
    exact ⟨Or.inl hnul, rfl⟩
  | ok realWorkspace =>
    cases hroot : files.real repoRoot with
    | error cause =>
      simp only [overlayRoot, Run.bind_eq, hworkspace, hroot, Run.outcome_ok_andThen,
        Run.outcome_error_andThen] at h
      cases h
      obtain ⟨hnul, rfl⟩ := real_eq_error.mp hroot
      exact ⟨Or.inr hnul, rfl⟩
    | ok realRoot =>
      rw [outcome_overlayRoot_of_real (real_eq_ok.mp hworkspace) (real_eq_ok.mp hroot)] at h
      cases h

theorem exists_error_overlayRoot
    (h : files.realPath workspace = .error .nulCharacter ∨
      files.realPath repoRoot = .error .nulCharacter) :
    ∃ failure, (overlayRoot files workspace repoRoot overlayFolder).outcome = .error failure := by
  cases houtcome : (overlayRoot files workspace repoRoot overlayFolder).outcome with
  | error failure => exact ⟨failure, rfl⟩
  | ok found =>
    -- a search that ends well has both real paths
    unfold overlayRoot at houtcome
    simp only [Run.bind_eq] at houtcome
    obtain ⟨realWorkspace, hworkspace, hsteps⟩ := Run.outcome_andThen_eq_ok.mp houtcome
    obtain ⟨realRoot, hroot, -⟩ := Run.outcome_andThen_eq_ok.mp hsteps
    rw [Run.outcome_ofExcept, real_eq_ok] at hworkspace hroot
    rcases h with h | h
    · rw [hworkspace] at h
      cases h
    · rw [hroot] at h
      cases h

theorem outcome_findOverlay_of_none
    (h : (overlayRoot files workspace repoRoot overlayFolder).outcome = .ok none) :
    (findOverlay files workspace repoRoot overlayFolder).outcome = .ok none := by
  simp only [findOverlay, Run.bind_eq, Run.outcome_andThen_of_ok h]
  rfl

/-- What the disk says about the place of the overlay decides. -/
theorem outcome_findOverlay_of_folder
    (h : (overlayRoot files workspace repoRoot overlayFolder).outcome = .ok (some folder)) :
    (findOverlay files workspace repoRoot overlayFolder).outcome =
      (FileSystem.answer files.isDirectory? folder).map fun there =>
        if there then some folder else none := by
  simp only [findOverlay, Run.bind_eq, Run.outcome_andThen_of_ok h]
  cases hanswer : FileSystem.answer files.isDirectory? folder with
  | error failure => rfl
  | ok there => cases there <;> rfl

theorem outcome_findOverlay_eq_some :
    (findOverlay files workspace repoRoot overlayFolder).outcome = .ok (some folder) ↔
      OverlayFound files workspace repoRoot overlayFolder folder := by
  constructor
  · intro h
    have hsteps := h
    simp only [findOverlay, Run.bind_eq] at hsteps
    obtain ⟨found, hroot, -⟩ := Run.outcome_andThen_eq_ok.mp hsteps
    cases found with
    | none =>
      rw [outcome_findOverlay_of_none hroot] at h
      cases h
    | some place =>
      rw [outcome_findOverlay_of_folder hroot] at h
      cases hanswer : FileSystem.answer files.isDirectory? place with
      | error failure =>
        rw [hanswer] at h
        cases h
      | ok there =>
        rw [hanswer] at h
        cases there with
        | false => cases h
        | true =>
          cases h
          exact ⟨outcome_overlayRoot_eq_some.mp hroot, Outcome.mapError_eq_ok.mp hanswer⟩
  · rintro ⟨hplace, hdirectory⟩
    rw [outcome_findOverlay_of_folder (outcome_overlayRoot_eq_some.mpr hplace),
      FileSystem.answer, hdirectory]
    rfl

theorem refused_of_findOverlay {failure : Failure}
    (h : (findOverlay files workspace repoRoot overlayFolder).outcome = .error failure) :
    OverlayLookupRefused files workspace repoRoot overlayFolder ∧
      failure.isOfResolving = false := by
  cases hroot : (overlayRoot files workspace repoRoot overlayFolder).outcome with
  | error cause =>
    simp only [findOverlay, Run.bind_eq, Run.outcome_andThen_of_error hroot] at h
    cases h
    obtain ⟨hnul | hnul, hresolving⟩ := nul_of_overlayRoot hroot
    · exact ⟨.workspace hnul, hresolving⟩
    · exact ⟨.repoRoot hnul, hresolving⟩
  | ok found =>
    cases found with
    | none =>
      rw [outcome_findOverlay_of_none hroot] at h
      cases h
    | some folder =>
      rw [outcome_findOverlay_of_folder hroot] at h
      cases hanswer : FileSystem.answer files.isDirectory? folder with
      | ok there =>
        rw [hanswer] at h
        cases h
      | error cause =>
        rw [hanswer] at h
        cases h
        obtain ⟨problem, hproblem, rfl⟩ := Outcome.mapError_eq_error.mp hanswer
        obtain ⟨-, hstatus⟩ := FileSystem.ask_eq_error_iff.mp hproblem
        exact ⟨.folder (outcome_overlayRoot_eq_some.mp hroot) hstatus, rfl⟩

theorem exists_error_findOverlay
    (h : OverlayLookupRefused files workspace repoRoot overlayFolder) :
    ∃ failure, (findOverlay files workspace repoRoot overlayFolder).outcome = .error failure := by
  have hearly : (∃ failure,
      (overlayRoot files workspace repoRoot overlayFolder).outcome = .error failure) →
      ∃ failure,
        (findOverlay files workspace repoRoot overlayFolder).outcome = .error failure := by
    rintro ⟨failure, hroot⟩
    refine ⟨failure, ?_⟩
    simp only [findOverlay, Run.bind_eq, Run.outcome_andThen_of_error hroot]
  cases h with
  | workspace hnul => exact hearly (exists_error_overlayRoot (Or.inl hnul))
  | repoRoot hnul => exact hearly (exists_error_overlayRoot (Or.inr hnul))
  | @folder folder hfolder hstatus =>
    have hproblem : files.isDirectory? folder = .error .nameTooLong :=
      FileSystem.ask_eq_error_iff.mpr ⟨rfl, hstatus⟩
    refine ⟨.file .nameTooLong folder.toString, ?_⟩
    rw [outcome_findOverlay_of_folder (outcome_overlayRoot_eq_some.mpr hfolder),
      FileSystem.answer, hproblem]
    rfl

/-! ### The union of the paths -/

/-- Behind the paths of the workspace stand those of the overlay that are new. -/
theorem mergePaths_eq_append (primary overlay : List String) :
    mergePaths primary overlay =
      mergePaths primary [] ++ (PathSet.ofList (overlay.filter (· ∉ primary))).toList := by
  unfold mergePaths
  rw [PathSet.toList_ofList_append, List.append_nil]

theorem mem_mergePaths {primary overlay : List String} {path : String} :
    path ∈ mergePaths primary overlay ↔ path ∈ primary ∨ path ∈ overlay := by
  unfold mergePaths
  rw [PathSet.mem_toList, PathSet.mem_ofList, List.mem_append]

theorem mergePaths_nodup (primary overlay : List String) : (mergePaths primary overlay).Nodup :=
  (PathSet.ofList (primary ++ overlay)).nodup

end ProductionClosure

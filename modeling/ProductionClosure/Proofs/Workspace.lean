import ProductionClosure.Proofs.Hoisting.StandIn
import ProductionClosure.Proofs.Outcome
import ProductionClosure.Proofs.PackageManager.Query
import ProductionClosure.Workspace

/-!
What the resolution of one folder comes to. It succeeds exactly when the folder has a report that
can be read and every link of its closure can be asked for, and then it yields what stands for the
closure. All but two of its failures are failures of resolving: a report with an integer past all
limits is refused by the number reader, and a link with a name too long by the disk.
-/

namespace ProductionClosure

/-- The distinct store paths of a folder, in the order in which the walk over its report meets
them. -/
def Installed (world : World) (config : Config) (folder : Path) (paths : PathSet) : Prop :=
  ∃ raw entries, (queryTree world config.packageManager folder.toString).outcome = .ok raw ∧
    parseReport raw = .ok entries ∧ closure entries = paths

/-- The report of a folder holds an integer that the number reader refuses. -/
def IntegerRefused (world : World) (config : Config) (folder : Path) : Prop :=
  ∃ raw digits, (queryTree world config.packageManager folder.toString).outcome = .ok raw ∧
    parseReport raw = .error (.notJson (.integerTooLong digits))

/-- A store path of a folder has a link with a name that is too long to be looked up. -/
def LinkRefused (world : World) (config : Config) (folder : Path) : Prop :=
  ∃ paths, Installed world config folder paths ∧
    ∃ path ∈ paths, Unanswered world.files folder config.layout path

variable {world : World} {config : Config} {folder : Path}

theorem Installed.unique {paths other : PathSet} (h : Installed world config folder paths)
    (hother : Installed world config folder other) : paths = other := by
  obtain ⟨raw, entries, hraw, hentries, rfl⟩ := h
  obtain ⟨raw', entries', hraw', hentries', rfl⟩ := hother
  rw [hraw] at hraw'
  cases hraw'
  rw [hentries] at hentries'
  cases hentries'
  rfl

/-! ### The steps -/

/-- What a listing that ended well printed is the report. -/
theorem outcome_queryTree_of_ended {packageManager text : String}
    {output complaints : Option (List UInt8)} (hfolder : world.files.isDirectoryText text = true)
    (hlisting : world.tools.listing text = .ended output complaints 0) :
    (queryTree world packageManager text).outcome = .ok (printedText (output.getD [])) := by
  rw [printedText_getD]
  exact outcome_queryTree_of_reported packageManager (.ended hfolder hlisting (Or.inl rfl))

theorem outcome_readEntriesOf (raw : String) :
    (readEntriesOf raw).outcome = (parseReport raw).mapError (Failure.ofReportFault raw) := by
  cases h : parseReport raw with
  | ok entries => simp only [readEntriesOf, Run.bind_eq, h]; rfl
  | error fault => simp only [readEntriesOf, Run.bind_eq, h]; rfl

theorem outcome_readEntriesOf_of_fault {raw : String} {fault : ReportFault}
    (h : parseReport raw = .error fault) :
    (readEntriesOf raw).outcome = .error (Failure.ofReportFault raw fault) := by
  rw [outcome_readEntriesOf, h]
  rfl

theorem outcome_warnOfNoEntries (entries : List WorkspaceEntry) :
    (warnOfNoEntries folder entries).outcome =
      .ok (if entries.isEmpty then [Event.noEntriesText folder] else []) := by
  unfold warnOfNoEntries
  split <;> rfl

theorem outcome_collectClosure (entries : List WorkspaceEntry) :
    (collectClosure entries).outcome = .ok (closure entries) := rfl

theorem isOfResolving_ofReportFault {raw : String} {fault : ReportFault} :
    (Failure.ofReportFault raw fault).isOfResolving = false ↔
      ∃ digits, fault = .notJson (.integerTooLong digits) := by
  unfold Failure.ofReportFault
  split
  · simp [Failure.isOfResolving]
  · next hother =>
    constructor
    · intro h
      cases h
    · rintro ⟨digits, rfl⟩
      exact absurd rfl (hother digits)

/-! ### The whole resolution -/

theorem outcome_resolveWorkspace_of_no_report {failure : Failure}
    (hquery : (queryTree world config.packageManager folder.toString).outcome = .error failure) :
    (resolveWorkspace world config folder).outcome = .error failure := by
  simp only [resolveWorkspace, Run.bind_eq, Run.outcome_andThen_of_error hquery]

/-- A report that cannot be read ends the resolution of its folder. -/
theorem outcome_resolveWorkspace_of_unreadable {raw : String} {failure : Failure}
    (hraw : (queryTree world config.packageManager folder.toString).outcome = .ok raw)
    (hread : (readEntriesOf raw).outcome = .error failure) :
    (resolveWorkspace world config folder).outcome = .error failure := by
  simp only [resolveWorkspace, Run.bind_eq, Run.outcome_andThen_of_ok hraw,
    Run.outcome_andThen_of_error hread]

/-- Behind a readable report only the links decide. -/
theorem outcome_resolveWorkspace_of_entries {raw : String} {entries : List WorkspaceEntry}
    (hraw : (queryTree world config.packageManager folder.toString).outcome = .ok raw)
    (hentries : parseReport raw = .ok entries) :
    (resolveWorkspace world config folder).outcome =
      (hoist world.files folder config.layout (closure entries).toList).outcome.map fun shown =>
        ⟨folder, entries.length, shown,
          if entries.isEmpty then [Event.noEntriesText folder] else []⟩ := by
  have hread : (readEntriesOf raw).outcome = .ok entries := by
    rw [outcome_readEntriesOf, hentries]
    rfl
  simp only [resolveWorkspace, Run.bind_eq]
  rw [Run.outcome_andThen_of_ok hraw, Run.outcome_andThen_of_ok hread,
    Run.outcome_andThen_of_ok (outcome_warnOfNoEntries entries),
    Run.outcome_andThen_of_ok (outcome_collectClosure entries)]
  cases hshown : (hoist world.files folder config.layout (closure entries).toList).outcome with
  | ok shown => rw [Run.outcome_andThen_of_ok hshown]; rfl
  | error failure => rw [Run.outcome_andThen_of_error hshown]; rfl

inductive FolderEnds (world : World) (config : Config) (folder : Path) :
    Except Failure WorkspaceResolution → Prop where
  | unreported {detail : String}
      (h : (queryTree world config.packageManager folder.toString).outcome =
        .error (.sourceUnavailable folder.toString detail)) :
      FolderEnds world config folder (.error (.sourceUnavailable folder.toString detail))
  | unreadable {raw : String} {fault : ReportFault}
      (hraw : (queryTree world config.packageManager folder.toString).outcome = .ok raw)
      (hfault : parseReport raw = .error fault) :
      FolderEnds world config folder (.error (Failure.ofReportFault raw fault))
  | unlinked {paths : PathSet} {link : Path} (hpaths : Installed world config folder paths)
      (hsome : ∃ path ∈ paths, Unanswered world.files folder config.layout path) :
      FolderEnds world config folder (.error (.file .nameTooLong link.toString))
  | resolved {part : WorkspaceResolution} {paths : PathSet}
      (hpaths : Installed world config folder paths)
      (hanswered : ∀ path ∈ paths, ¬ Unanswered world.files folder config.layout path)
      (hfolder : part.folder = folder)
      (hshown : part.paths = paths.toList.map (standIn world.files folder config.layout)) :
      FolderEnds world config folder (.ok part)

/-- Everything that a folder can come to; what is said of it is read off these four cases. -/
theorem resolveWorkspace_ends (world : World) (config : Config) (folder : Path) :
    FolderEnds world config folder (resolveWorkspace world config folder).outcome := by
  rcases reported_or_unreported world (world.tools.platform.executable config.packageManager)
    folder.toString with ⟨raw, hreported⟩ | ⟨detail, hunreported⟩
  · have hraw := outcome_queryTree_of_reported config.packageManager hreported
    cases hparse : parseReport raw with
    | error fault =>
      rw [outcome_resolveWorkspace_of_unreadable hraw (outcome_readEntriesOf_of_fault hparse)]
      exact .unreadable hraw hparse
    | ok entries =>
      have hpaths : Installed world config folder (closure entries) :=
        ⟨raw, entries, hraw, hparse, rfl⟩
      rw [outcome_resolveWorkspace_of_entries hraw hparse]
      by_cases hsome : ∃ path ∈ closure entries, Unanswered world.files folder config.layout path
      · obtain ⟨link, hlink⟩ := outcome_hoist_of_unanswered hsome
        rw [hlink]
        exact .unlinked hpaths hsome
      · have hanswered : ∀ path ∈ (closure entries).toList,
            ¬ Unanswered world.files folder config.layout path :=
          fun path hpath hun => hsome ⟨path, hpath, hun⟩
        rw [outcome_hoist_of_answered hanswered]
        exact .resolved hpaths hanswered rfl rfl
  · have hquery := outcome_queryTree_of_unreported hunreported
    rw [outcome_resolveWorkspace_of_no_report hquery]
    exact .unreported hquery

/-- A resolved folder has a report, every link of its closure was asked for, and its paths are what
stands for the closure. -/
theorem installed_of_resolveWorkspace {part : WorkspaceResolution}
    (h : (resolveWorkspace world config folder).outcome = .ok part) :
    ∃ paths, Installed world config folder paths ∧
      (∀ path ∈ paths, ¬ Unanswered world.files folder config.layout path) ∧
      part.folder = folder ∧
      part.paths = paths.toList.map (standIn world.files folder config.layout) := by
  have hends := resolveWorkspace_ends world config folder
  rw [h] at hends
  cases hends with
  | resolved hpaths hanswered hfolder hshown => exact ⟨_, hpaths, hanswered, hfolder, hshown⟩

/-- Which failures of a folder go beyond resolving. -/
theorem exists_error_resolveWorkspace_iff :
    (∃ failure, (resolveWorkspace world config folder).outcome = .error failure ∧
        failure.isOfResolving = false) ↔
      IntegerRefused world config folder ∨ LinkRefused world config folder := by
  constructor
  · rintro ⟨failure, h, hresolving⟩
    have hends := resolveWorkspace_ends world config folder
    rw [h] at hends
    cases hends with
    | unreported => cases hresolving
    | unreadable hraw hfault =>
      obtain ⟨digits, rfl⟩ := isOfResolving_ofReportFault.mp hresolving
      exact Or.inl ⟨_, digits, hraw, hfault⟩
    | unlinked hpaths hsome => exact Or.inr ⟨_, hpaths, hsome⟩
  · rintro (⟨raw, digits, hraw, hfault⟩ | ⟨_, ⟨raw, entries, hraw, hentries, rfl⟩, hsome⟩)
    · have hread := outcome_readEntriesOf_of_fault hfault
      exact ⟨_, outcome_resolveWorkspace_of_unreadable hraw hread, rfl⟩
    · obtain ⟨link, hlink⟩ := outcome_hoist_of_unanswered hsome
      refine ⟨.file .nameTooLong link.toString, ?_, rfl⟩
      rw [outcome_resolveWorkspace_of_entries hraw hentries]
      rw [hlink]
      rfl

end ProductionClosure

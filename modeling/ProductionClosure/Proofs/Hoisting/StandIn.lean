import ProductionClosure.Hoisting
import ProductionClosure.Proofs.FileSystem.Lookup
import ProductionClosure.Proofs.Run

/-!
What stands for a path. Each path is replaced by itself, without a look at the others: the link of
its package where something is found there, else the path as it is. Only one thing can stop the
replacement, a link whose name is too long to be looked up, and it stops it for all paths.
-/

namespace ProductionClosure

def linkFor? (workspace : Path) (layout : StoreLayout) (path : String) : Option Path :=
  (StorePath.packageName? layout path).map (linkOf (linkRoot workspace layout))

def FileSystem.found (files : FileSystem) (path : Path) : Bool :=
  (files.status path.toString).isOk

/-- The existing link of the package that a path leads to, or else the path. -/
def standIn (files : FileSystem) (workspace : Path) (layout : StoreLayout) (path : String) :
    String :=
  match linkFor? workspace layout path with
  | none => path
  | some link => if files.found link then link.toString else path

/-- The link of a path has a name that is too long to be looked up. -/
def Unanswered (files : FileSystem) (workspace : Path) (layout : StoreLayout) (path : String) :
    Prop :=
  ∃ link, linkFor? workspace layout path = some link ∧
    files.status link.toString = .error .nameTooLong

variable {files : FileSystem} {workspace link : Path} {layout : StoreLayout} {path : String}

theorem standIn_of_no_link (h : linkFor? workspace layout path = none) :
    standIn files workspace layout path = path := by
  simp only [standIn, h]

theorem standIn_of_found (h : linkFor? workspace layout path = some link)
    (hfound : files.found link = true) :
    standIn files workspace layout path = link.toString := by
  simp only [standIn, h, hfound, if_true]

theorem standIn_of_not_found (h : linkFor? workspace layout path = some link)
    (hfound : files.found link = false) : standIn files workspace layout path = path := by
  simp only [standIn, h, hfound, Bool.false_eq_true, if_false]

theorem not_unanswered_of_no_link (h : linkFor? workspace layout path = none) :
    ¬ Unanswered files workspace layout path := by
  rintro ⟨link, hlink, -⟩
  rw [h] at hlink
  cases hlink

theorem not_unanswered_of_found (h : linkFor? workspace layout path = some link)
    (hfound : files.found link = true) : ¬ Unanswered files workspace layout path := by
  rintro ⟨other, hother, hstatus⟩
  rw [h] at hother
  cases hother
  rw [FileSystem.found, hstatus] at hfound
  cases hfound

/-! ### One path -/

theorem found_eq_true_iff : files.found link = true ↔ files.exists? link = .ok true := by
  rw [FileSystem.found, FileSystem.exists?, FileSystem.ask_eq_true_iff]
  cases files.status link.toString with
  | ok entry => simp [Except.isOk, Except.toBool]
  | error problem => simp [Except.isOk, Except.toBool]

theorem found_of_answer {answer : Bool} (h : files.exists? link = .ok answer) :
    files.found link = answer := by
  cases answer with
  | true => exact found_eq_true_iff.mpr h
  | false =>
    rw [Bool.eq_false_iff, ne_eq, found_eq_true_iff, h]
    intro heq
    cases heq

theorem placement_of_no_link (h : linkFor? workspace layout path = none) :
    placement files workspace layout path = .ok .outside := by
  rw [linkFor?, Option.map_eq_none_iff] at h
  simp only [placement, h]

/-- A link that can be asked for decides the placement, and with it what stands for the path. -/
theorem placement_of_answer {answer : Bool} (h : linkFor? workspace layout path = some link)
    (hanswer : files.exists? link = .ok answer) :
    ∃ place, placement files workspace layout path = .ok place ∧
      place.resolve path = standIn files workspace layout path := by
  obtain ⟨name, hname, rfl⟩ := Option.map_eq_some_iff.mp h
  have hask : FileSystem.answer files.exists? (linkOf (linkRoot workspace layout) name) =
      .ok answer := by
    rw [FileSystem.answer, hanswer]
    rfl
  cases answer with
  | true =>
    refine ⟨.linked (linkOf (linkRoot workspace layout) name), ?_, ?_⟩
    · simp only [placement, hname, hask]
      rfl
    · rw [standIn_of_found h (found_of_answer hanswer)]
      rfl
  | false =>
    refine ⟨.unlinked name, ?_, ?_⟩
    · simp only [placement, hname, hask]
      rfl
    · rw [standIn_of_not_found h (found_of_answer hanswer)]
      rfl

/-- A path is placed unless its link cannot be asked for. -/
theorem placement_of_answered (h : ¬ Unanswered files workspace layout path) :
    ∃ place, placement files workspace layout path = .ok place ∧
      place.resolve path = standIn files workspace layout path := by
  cases hlink : linkFor? workspace layout path with
  | none => exact ⟨.outside, placement_of_no_link hlink, (standIn_of_no_link hlink).symm⟩
  | some link =>
    cases hanswer : files.exists? link with
    | ok answer => exact placement_of_answer hlink hanswer
    | error problem =>
      obtain ⟨-, hstatus⟩ := FileSystem.ask_eq_error_iff.mp hanswer
      exact absurd ⟨link, hlink, hstatus⟩ h

theorem placement_of_unanswered (h : linkFor? workspace layout path = some link)
    (hstatus : files.status link.toString = .error .nameTooLong) :
    placement files workspace layout path = .error (.file .nameTooLong link.toString) := by
  obtain ⟨name, hname, rfl⟩ := Option.map_eq_some_iff.mp h
  have hexists : files.exists? (linkOf (linkRoot workspace layout) name) =
      .error .nameTooLong := FileSystem.ask_eq_error_iff.mpr ⟨rfl, hstatus⟩
  have hask : FileSystem.answer files.exists? (linkOf (linkRoot workspace layout) name) =
      .error (.file .nameTooLong (linkOf (linkRoot workspace layout) name).toString) := by
    rw [FileSystem.answer, hexists]
    rfl
  simp only [placement, hname, hask]
  rfl

/-! ### All paths -/

theorem outcome_report_placement (place : Placement) : place.report.outcome = .ok () := by
  cases place <;> rfl

theorem placements_of_answered {paths : List String}
    (h : ∀ path ∈ paths, ¬ Unanswered files workspace layout path) :
    ∃ places, (placements files workspace layout paths).outcome = .ok places ∧
      List.zipWith (fun path place => place.resolve path) paths places =
        paths.map (standIn files workspace layout) := by
  induction paths with
  | nil => exact ⟨[], rfl, rfl⟩
  | cons path rest ih =>
    obtain ⟨place, hplace, hresolve⟩ := placement_of_answered (h path List.mem_cons_self)
    obtain ⟨places, hplaces, hzip⟩ :=
      ih fun other hother => h other (List.mem_cons_of_mem path hother)
    refine ⟨place :: places, ?_, ?_⟩
    · simp only [placements, Run.bind_eq, hplace, Run.outcome_ok_andThen]
      rw [Run.outcome_andThen_of_ok (outcome_report_placement place),
        Run.outcome_andThen_of_ok hplaces]
      rfl
    · rw [List.zipWith_cons_cons, hresolve, hzip, List.map_cons]

inductive FirstUnanswered (files : FileSystem) (workspace : Path) (layout : StoreLayout) :
    List String → Path → Prop where
  | here {path : String} {rest : List String} {link : Path}
      (hlink : linkFor? workspace layout path = some link)
      (hstatus : files.status link.toString = .error .nameTooLong) :
      FirstUnanswered files workspace layout (path :: rest) link
  | behind {path : String} {rest : List String} {link : Path}
      (hanswered : ¬ Unanswered files workspace layout path)
      (hrest : FirstUnanswered files workspace layout rest link) :
      FirstUnanswered files workspace layout (path :: rest) link

theorem exists_firstUnanswered {paths : List String}
    (h : ∃ path ∈ paths, Unanswered files workspace layout path) :
    ∃ link, FirstUnanswered files workspace layout paths link := by
  induction paths with
  | nil =>
    obtain ⟨path, hpath, -⟩ := h
    cases hpath
  | cons path rest ih =>
    by_cases hfirst : Unanswered files workspace layout path
    · obtain ⟨link, hlink, hstatus⟩ := hfirst
      exact ⟨link, .here hlink hstatus⟩
    · -- the first path is placed, so the link that is refused belongs to a later one
      obtain ⟨later, hmem, hlater⟩ := h
      have hrest : later ∈ rest := by
        rcases List.mem_cons.mp hmem with rfl | hrest
        · exact absurd hlater hfirst
        · exact hrest
      obtain ⟨link, hlink⟩ := ih ⟨later, hrest, hlater⟩
      exact ⟨link, .behind hfirst hlink⟩

theorem FirstUnanswered.outcome_placements {paths : List String}
    (h : FirstUnanswered files workspace layout paths link) :
    (placements files workspace layout paths).outcome =
      .error (.file .nameTooLong link.toString) := by
  induction h with
  | here hlink hstatus =>
    simp only [placements, Run.bind_eq, placement_of_unanswered hlink hstatus,
      Run.outcome_error_andThen]
  | behind hanswered _ ih =>
    obtain ⟨place, hplace, -⟩ := placement_of_answered hanswered
    simp only [placements, Run.bind_eq, hplace, Run.outcome_ok_andThen]
    rw [Run.outcome_andThen_of_ok (outcome_report_placement place)]
    exact Run.outcome_andThen_of_error ih _

theorem FirstUnanswered.outcome_hoist {paths : List String}
    (h : FirstUnanswered files workspace layout paths link) :
    (hoist files workspace layout paths).outcome =
      .error (.file .nameTooLong link.toString) := by
  simp only [hoist, Run.bind_eq]
  exact Run.outcome_andThen_of_error h.outcome_placements _

/-- Where every link can be asked for, each path is replaced by what stands for it. -/
theorem outcome_hoist_of_answered {paths : List String}
    (h : ∀ path ∈ paths, ¬ Unanswered files workspace layout path) :
    (hoist files workspace layout paths).outcome =
      .ok (paths.map (standIn files workspace layout)) := by
  obtain ⟨places, hplaces, hzip⟩ := placements_of_answered h
  simp only [hoist, Run.bind_eq]
  rw [Run.outcome_andThen_of_ok hplaces, ← hzip]
  rfl

/-- One link that cannot be asked for stops the whole replacement. -/
theorem outcome_hoist_of_unanswered {paths : List String}
    (h : ∃ path ∈ paths, Unanswered files workspace layout path) :
    ∃ link : Path, (hoist files workspace layout paths).outcome =
      .error (.file .nameTooLong link.toString) := by
  obtain ⟨link, hfirst⟩ := exists_firstUnanswered h
  exact ⟨link, hfirst.outcome_hoist⟩

theorem outcome_hoist_eq_ok {paths shown : List String} :
    (hoist files workspace layout paths).outcome = .ok shown ↔
      (∀ path ∈ paths, ¬ Unanswered files workspace layout path) ∧
        shown = paths.map (standIn files workspace layout) := by
  by_cases hsome : ∃ path ∈ paths, Unanswered files workspace layout path
  · obtain ⟨link, hlink⟩ := outcome_hoist_of_unanswered hsome
    obtain ⟨path, hpath, hunanswered⟩ := hsome
    rw [hlink]
    constructor
    · intro h
      cases h
    · rintro ⟨hanswered, -⟩
      exact absurd hunanswered (hanswered path hpath)
  · have hanswered : ∀ path ∈ paths, ¬ Unanswered files workspace layout path :=
      fun path hpath h => hsome ⟨path, hpath, h⟩
    rw [outcome_hoist_of_answered hanswered, Except.ok.injEq]
    constructor
    · rintro rfl
      exact ⟨hanswered, rfl⟩
    · rintro ⟨-, rfl⟩
      rfl

end ProductionClosure

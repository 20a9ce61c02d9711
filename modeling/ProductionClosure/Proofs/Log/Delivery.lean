import ProductionClosure.Log.Root
import ProductionClosure.Proofs.Log.Setup
import ProductionClosure.Proofs.Text.Utf8

/-!
Where records go. Logging leaves the root as it is and lets the disk grow, so a log file in use
stays where it was opened. Behind a setup that succeeded each handler gets the lines of the records
that reach its own level, in their order and no others; levels from zero down are switched off.
-/

namespace ProductionClosure.Log

open FileSystem (Grown)

namespace Process

variable {process later last : Process} {moment : Moment} {record : Record} {outlet : Outlet}

/-! ### What logging keeps -/

def HasFileOf (process : Process) (outlet : Outlet) : Prop :=
  ∀ place, outlet.file = some place → process.files.HasFile place

/-- All log files in use are there. -/
def FilesInUse (process : Process) : Prop :=
  ∀ outlet ∈ process.root.outlets, process.HasFileOf outlet

structure Continues (process later : Process) : Prop where
  root : later.root = process.root
  files : Grown process.files later.files

theorem Continues.refl (process : Process) : Continues process process := ⟨rfl, .refl _⟩

theorem Continues.trans (h : Continues process later) (hmore : Continues later last) :
    Continues process last :=
  ⟨hmore.root.trans h.root, h.files.trans hmore.files⟩

theorem HasFileOf.grown (h : process.HasFileOf outlet) (hgrown : Grown process.files later.files) :
    later.HasFileOf outlet :=
  fun place hplace => (h place hplace).grown hgrown

theorem FilesInUse.continues (h : process.FilesInUse) (hlater : Continues process later) :
    later.FilesInUse := by
  intro outlet hmem
  rw [hlater.root] at hmem
  exact (h outlet hmem).grown hlater.files

theorem HasFileOf.write (h : process.HasFileOf outlet) (line : String) :
    Continues process (process.write outlet line) := by
  unfold Process.write
  split
  · exact ⟨rfl, .refl process.files⟩
  · next place hplace =>
    obtain ⟨hopen, content, hentry⟩ := h place hplace
    exact ⟨rfl, (FileSystem.append_of_file hopen hentry _).1⟩

theorem HasFileOf.hand (h : process.HasFileOf outlet) (moment : Moment) (record : Record) :
    Continues process (process.hand moment record outlet) := by
  unfold Process.hand
  split
  · exact h.write _
  · exact .refl process

theorem continues_hands {outlets : List Outlet}
    (h : ∀ outlet ∈ outlets, process.HasFileOf outlet) (moment : Moment) (record : Record) :
    Continues process
      (outlets.foldl (fun process outlet => process.hand moment record outlet) process) := by
  induction outlets generalizing process with
  | nil => exact .refl process
  | cons outlet rest ih =>
    obtain ⟨houtlet, hrest⟩ := List.forall_mem_cons.mp h
    have hhanded := houtlet.hand moment record
    exact hhanded.trans (ih fun other hmem => (hrest other hmem).grown hhanded.files)

theorem FilesInUse.working (h : process.FilesInUse) :
    ∀ outlet ∈ process.root.working, process.HasFileOf outlet := by
  unfold Root.working
  split
  · intro outlet hmem place hplace
    obtain rfl := List.mem_singleton.mp hmem
    cases hplace
  · exact h

theorem FilesInUse.log (h : process.FilesInUse) (moment : Moment) (record : Record) :
    Continues process (process.log moment record) := by
  unfold Process.log
  split
  · exact continues_hands h.working moment record
  · exact .refl process

theorem FilesInUse.logAll (h : process.FilesInUse) (records : List (Moment × Record)) :
    Continues process (process.logAll records) := by
  induction records generalizing process with
  | nil => exact .refl process
  | cons stamped rest ih =>
    have hlogged := h.log stamped.1 stamped.2
    exact hlogged.trans (ih (h.continues hlogged))

end Process

/-! ### What a handler gets -/

theorem Handler.line_ne_empty (handler : Handler) (moment : Moment) (record : Record) :
    handler.line moment record ≠ "" := by
  unfold line
  cases handler.detail <;> simp [toString]

/-- The lines that a handler is due: those of the records that reach its level, unless their level
is switched off. -/
def Handler.due (handler : Handler) (records : List (Moment × Record)) : String :=
  String.join ((records.filter fun stamped =>
    0 < stamped.2.level ∧ handler.level ≤ stamped.2.level).map fun stamped =>
      handler.line stamped.1 stamped.2)

def Root.of (logging : Logging) : Root where
  outlets := { handler := logging.console } ::
    (logging.file.map fun opened => ⟨opened.1, some opened.2⟩).toList
  level := logging.rootLevel
  tellsFailures := false

section

variable {logging : Logging} {handler : Handler}

theorem Handler.due_append (handler : Handler) (records more : List (Moment × Record)) :
    handler.due (records ++ more) = handler.due records ++ handler.due more := by
  rw [due, List.filter_append, List.map_append, String.join_append]
  rfl

theorem Handler.due_ne_empty_iff (handler : Handler) (moment : Moment) (record : Record) :
    handler.due [(moment, record)] ≠ "" ↔ 0 < record.level ∧ handler.level ≤ record.level := by
  by_cases hdue : 0 < record.level ∧ handler.level ≤ record.level
  · simp [due, hdue, line_ne_empty]
  · simp [due, hdue]

theorem Handler.due_singleton (h : handler ∈ logging.handlers) (moment : Moment) (record : Record) :
    handler.due [(moment, record)] =
      if (Root.of logging).passes record then
        if handler.accepts record then handler.line moment record else ""
      else "" := by
  have hreaches := Logging.reaches_iff h record
  rw [due, List.filter_cons, List.filter_nil]
  by_cases hpasses : (Root.of logging).passes record = true
  · by_cases haccepts : handler.accepts record = true
    · have hdue := decide_eq_true (hreaches.mp ⟨hpasses, haccepts⟩)
      rw [if_pos hpasses, if_pos haccepts, if_pos hdue]
      exact String.empty_append
    · rw [if_pos hpasses, if_neg haccepts, if_neg]
      · rfl
      · exact fun hdue => haccepts (hreaches.mpr (of_decide_eq_true hdue)).2
  · rw [if_neg hpasses, if_neg]
    · rfl
    · exact fun hdue => hpasses (hreaches.mpr (of_decide_eq_true hdue)).1

end

namespace Process

variable {process later last : Process} {logging : Logging} {records : List (Moment × Record)}

/-- What becomes of a process when records were logged. -/
structure Delivered (logging : Logging) (records : List (Moment × Record))
    (process later : Process) : Prop extends Continues process later where
  shown : later.shown = process.shown ++ logging.console.due records
  written : ∀ handler place content, logging.file = some (handler, place) →
    process.files.entry? place = some (.file content true) →
      later.files.entry? place =
        some (.file (content ++ Text.encodeUtf8 (handler.due records)) true)

theorem Delivered.trans {more : List (Moment × Record)}
    (h : Delivered logging records process later) (hmore : Delivered logging more later last) :
    Delivered logging (records ++ more) process last where
  toContinues := h.toContinues.trans hmore.toContinues
  shown := by rw [hmore.shown, h.shown, String.append_assoc, ← Handler.due_append]
  written handler place content hfile hentry := by
    have hbetween := h.written handler place content hfile hentry
    have hentry' := hmore.written handler place _ hfile hbetween
    rwa [List.append_assoc, ← Text.encodeUtf8_append, ← Handler.due_append] at hentry'

/-- Where nothing is due nothing is done. -/
theorem delivered_nothing (hshown : logging.console.due records = "")
    (hwritten : ∀ handler place, logging.file = some (handler, place) → handler.due records = "") :
    Delivered logging records process process where
  toContinues := .refl process
  shown := by rw [hshown, String.append_empty]
  written handler place content hfile hentry := by
    rw [hwritten handler place hfile, Text.encodeUtf8_empty, List.append_nil]
    exact hentry

theorem shown_hand_console (process : Process) (moment : Moment) (record : Record)
    (handler : Handler) :
    (process.hand moment record { handler }).shown =
      process.shown ++ if handler.accepts record then handler.line moment record else "" := by
  unfold Process.hand
  split
  · rfl
  · rw [String.append_empty]

theorem files_hand_console (process : Process) (moment : Moment) (record : Record)
    (handler : Handler) : (process.hand moment record { handler }).files = process.files := by
  unfold Process.hand
  split <;> rfl

theorem shown_hand_file (process : Process) (moment : Moment) (record : Record) (handler : Handler)
    (place : Place) : (process.hand moment record ⟨handler, some place⟩).shown = process.shown := by
  unfold Process.hand
  split <;> rfl

theorem entry?_hand_file {place : Place} (hopen : process.files.Open place) {content : List UInt8}
    (hentry : process.files.entry? place = some (.file content true)) (moment : Moment)
    (record : Record) (handler : Handler) :
    (process.hand moment record ⟨handler, some place⟩).files.entry? place =
      some (.file (content ++ Text.encodeUtf8
        (if handler.accepts record then handler.line moment record else "")) true) := by
  unfold Process.hand
  split
  · exact (FileSystem.append_of_file hopen hentry _).2
  · rw [Text.encodeUtf8_empty, List.append_nil]
    exact hentry

theorem log_of_passes (hroot : process.root = .of logging)
    (hpasses : (Root.of logging).passes record = true) (moment : Moment) :
    process.log moment record =
      (Root.of logging).outlets.foldl (fun process outlet => process.hand moment record outlet)
        process := by
  have hworking : (Root.of logging).working = (Root.of logging).outlets :=
    if_neg (List.cons_ne_nil _ _)
  rw [Process.log, hroot, if_pos hpasses, hworking]

theorem FilesInUse.log_of (h : process.FilesInUse) (hroot : process.root = .of logging)
    (moment : Moment) (record : Record) :
    Delivered logging [(moment, record)] process (process.log moment record) := by
  have hdue : ∀ handler ∈ logging.handlers, handler.due [(moment, record)] = _ :=
    fun handler hmem => Handler.due_singleton hmem moment record
  have hconsole := hdue logging.console List.mem_cons_self
  have hfile : ∀ handler place, logging.file = some (handler, place) →
      handler.due [(moment, record)] = _ :=
    fun handler place hopened => hdue handler (by simp [Logging.handlers, hopened])
  by_cases hpasses : (Root.of logging).passes record = true
  · have hlog := log_of_passes hroot hpasses moment
    refine ⟨h.log moment record, ?_, fun handler place content hopened hentry => ?_⟩
    · rw [hconsole, if_pos hpasses, hlog, ← shown_hand_console, Root.of, List.foldl_cons]
      cases logging.file with
      | none => rfl
      | some opened => exact shown_hand_file _ moment record opened.1 opened.2
    · have houtlet : ⟨handler, some place⟩ ∈ process.root.outlets := by
        simp [hroot, Root.of, hopened]
      have hopen := (h _ houtlet place rfl).1
      rw [← files_hand_console process moment record logging.console] at hopen hentry
      rw [hfile handler place hopened, if_pos hpasses, hlog, Root.of, hopened]
      exact entry?_hand_file hopen hentry moment record handler
  · have hlog : process.log moment record = process := by
      rw [Process.log, hroot, if_neg hpasses]
    rw [hlog]
    refine delivered_nothing ?_ fun handler place hopened => ?_
    · rw [hconsole, if_neg hpasses]
    · rw [hfile handler place hopened, if_neg hpasses]

theorem FilesInUse.logAll_of (h : process.FilesInUse) (hroot : process.root = .of logging)
    (records : List (Moment × Record)) :
    Delivered logging records process (process.logAll records) := by
  induction records generalizing process with
  | nil => exact delivered_nothing rfl fun _ _ _ => rfl
  | cons stamped rest ih =>
    have hlogged := h.log_of hroot stamped.1 stamped.2
    exact hlogged.trans (ih (h.continues hlogged.toContinues) (hlogged.root.trans hroot))

end Process

end ProductionClosure.Log

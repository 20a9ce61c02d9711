import ProductionClosure.Proofs.Json.Decoder
import ProductionClosure.Proofs.Workspace

/-!
What a report is refused for. The decoder and the two checks behind it each have faults of their
own, and a fault is kept together with the whole text. One refusal of the decoder is no fault of the
report: an integer with too many digits stops the number reader, and what it says goes past all that
is prepared for reports.
-/

namespace ProductionClosure

/-- A fault in the structure of a value. There is a value, so the decoder is not to blame. -/
def ReportFault.IsStructural : ReportFault → Prop
  | .notJson _ => False
  | .entryNotObject .. | .badEntry .. | .dependencyNotObject .. | .badDependency .. => True

/-! ### Faults by reader -/

theorem isStructural_of_readNode {key : String} {value : Json} {fault : ReportFault}
    (h : readNode key value = .error fault) : fault.IsStructural := by
  cases value with
  | object members =>
    obtain ⟨rejection, -, rfl⟩ := Outcome.mapError_eq_error.mp h
    exact trivial
  | null | bool | int | float | string | array =>
    cases h
    exact trivial

theorem isStructural_of_readLevel {mapping : Json.Members} {fault : ReportFault}
    (h : readLevel mapping = .error fault) : fault.IsStructural := by
  fun_induction readLevel mapping with
  | case1 => cases h
  | case2 key value rest found hnode =>
    cases h
    exact isStructural_of_readNode hnode
  | case3 key value rest package children hnode found hrest ih =>
    cases h
    exact ih hrest
  | case4 => cases h

/-- Whatever is on the stack, its faults are those of one of its levels. -/
theorem isStructural_of_readLevels {pending : List Json.Members} {fault : ReportFault}
    (h : readLevels pending = .error fault) : fault.IsStructural := by
  fun_induction readLevels pending with
  | case1 => cases h
  | case2 mapping rest found hlevel =>
    cases h
    exact isStructural_of_readLevel hlevel
  | case3 mapping rest level hlevel found hrest ih =>
    cases h
    exact ih hrest
  | case4 => cases h

theorem isStructural_of_readEntry {index : Nat} {value : Json} {fault : ReportFault}
    (h : readEntry index value = .error fault) : fault.IsStructural := by
  cases value with
  | object members =>
    rcases Outcome.bind_eq_error.mp h with hheader | ⟨⟨header, dependencies⟩, -, h⟩
    · obtain ⟨rejection, -, rfl⟩ := Outcome.mapError_eq_error.mp hheader
      exact trivial
    · rcases Outcome.bind_eq_error.mp h with hforest | ⟨forest, -, h⟩
      · cases hlevels : readLevels [dependencies] with
        | error found =>
          rw [readDependencies, hlevels] at hforest
          cases hforest
          exact isStructural_of_readLevels hlevels
        | ok levels =>
          rw [readDependencies, hlevels] at hforest
          cases hforest
      · cases h
  | null | bool | int | float | string | array =>
    cases h
    exact trivial

theorem isStructural_of_readEntries {index : Nat} {items : List Json} {fault : ReportFault}
    (h : readEntries index items = .error fault) : fault.IsStructural := by
  induction items generalizing index with
  | nil => cases h
  | cons item rest ih =>
    rcases Outcome.bind_eq_error.mp h with hentry | ⟨entry, -, h⟩
    · exact isStructural_of_readEntry hentry
    · rcases Outcome.bind_eq_error.mp h with hrest | ⟨entries, -, h⟩
      · exact ih hrest
      · cases h

/-! ### How a reading ends -/

inductive ReadingEnds (raw : String) : Except Failure (List WorkspaceEntry) → Prop where
  | read {entries : List WorkspaceEntry} (h : parseReport raw = .ok entries) :
      ReadingEnds raw (.ok entries)
  | malformed {fault : ReportFault} (h : parseReport raw = .error fault)
      (hfits : ∀ digits, fault ≠ .notJson (.integerTooLong digits)) :
      ReadingEnds raw (.error (.malformedReport fault raw))
  | refused {digits : Nat} (hdecode : Json.decode raw = .error (.integerTooLong digits)) :
      ReadingEnds raw (.error (.integerTooLong digits))

/-- The number reader is at fault only where the decoder gave up. -/
theorem decode_of_parseReport {raw : String} {failure : Json.DecodeFailure}
    (h : parseReport raw = .error (.notJson failure)) : Json.decode raw = .error failure := by
  rcases Outcome.bind_eq_error.mp h with hdecode | ⟨value, -, hvalue⟩
  · obtain ⟨cause, hcause, heq⟩ := Outcome.mapError_eq_error.mp hdecode
    cases heq
    exact hcause
  · -- behind the decoder there is a value, and the checks have faults of their own only
    exact (isStructural_of_readEntries hvalue).elim

theorem readEntriesOf_ends (raw : String) : ReadingEnds raw (readEntriesOf raw).outcome := by
  rw [outcome_readEntriesOf]
  cases hparse : parseReport raw with
  | ok entries => exact .read hparse
  | error fault =>
    show ReadingEnds raw (.error (Failure.ofReportFault raw fault))
    unfold Failure.ofReportFault
    split
    · exact .refused (decode_of_parseReport hparse)
    · next hfits => exact .malformed hparse fun digits => hfits digits

/-- An integer goes past the faults of a report exactly when the decoder refuses it. -/
theorem outcome_readEntriesOf_eq_refused {raw : String} {digits : Nat} :
    (readEntriesOf raw).outcome = .error (.integerTooLong digits) ↔
      Json.decode raw = .error (.integerTooLong digits) := by
  constructor
  · intro h
    have hends := readEntriesOf_ends raw
    rw [h] at hends
    cases hends with
    | refused hdecode => exact hdecode
  · intro h
    rw [outcome_readEntriesOf, parseReport, h]
    rfl

end ProductionClosure

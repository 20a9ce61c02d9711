import ProductionClosure.Proofs.Dependency.Fault
import ProductionClosure.Proofs.Process
import ProductionClosure.Proofs.Resolution.Frame

/-!
What a resolution makes of a report that cannot be read. A fault is told with the beginning of the
report where the report is the workspace's own, and leaves a warning where it is the overlay's. An
integer that the number reader refuses is told nowhere: in either folder it ends the whole run.
-/

namespace ProductionClosure

section

variable {world : World} {config : Config} {workspace repoRoot folder : Path} {raw : String}
  {fault : ReportFault} {digits : Nat} {without : Resolution}

/-! ### A malformed report -/

theorem outcome_resolve_of_malformed (wantsOverlay : Bool)
    (hraw : (queryTree world config.packageManager folder.toString).outcome = .ok raw)
    (hfault : (readEntriesOf raw).outcome = .error (.malformedReport fault raw)) :
    (resolve world config folder repoRoot wantsOverlay).outcome =
      .ok (.failed folder repoRoot fault.message (some (excerpt raw excerptLimit))) := by
  rw [outcome_resolve_of_unresolved wantsOverlay
    (outcome_resolveWorkspace_of_unreadable hraw hfault)]
  rfl

theorem outcome_resolve_of_malformed_overlay (henabled : config.overlay = true)
    (hfound : OverlayFound world.files workspace repoRoot config.overlayFolder folder)
    (hraw : (queryTree world config.packageManager folder.toString).outcome = .ok raw)
    (hfault : (readEntriesOf raw).outcome = .error (.malformedReport fault raw))
    (hwithout : (resolve world config workspace repoRoot false).outcome = .ok without) :
    (resolve world config workspace repoRoot true).outcome =
      .ok (without.skippingOverlay folder fault.message) := by
  have hfailure := outcome_resolveWorkspace_of_unreadable hraw hfault
  rw [outcome_resolve_of_skipped henabled hfound hfailure rfl, hwithout]
  rfl

/-! ### A refused integer -/

theorem outcome_resolve_of_refused (wantsOverlay : Bool)
    (hraw : (queryTree world config.packageManager folder.toString).outcome = .ok raw)
    (hrefused : (readEntriesOf raw).outcome = .error (.integerTooLong digits)) :
    (resolve world config folder repoRoot wantsOverlay).outcome =
      .error (.integerTooLong digits) := by
  rw [outcome_resolve_of_unresolved wantsOverlay
    (outcome_resolveWorkspace_of_unreadable hraw hrefused)]
  rfl

theorem outcome_resolve_of_refused_overlay (henabled : config.overlay = true)
    (hfound : OverlayFound world.files workspace repoRoot config.overlayFolder folder)
    (hraw : (queryTree world config.packageManager folder.toString).outcome = .ok raw)
    (hrefused : (readEntriesOf raw).outcome = .error (.integerTooLong digits))
    (hwithout : (resolve world config workspace repoRoot false).outcome = .ok without)
    (hok : without.ok = true) :
    (resolve world config workspace repoRoot true).outcome = .error (.integerTooLong digits) := by
  cases without with
  | failed => cases hok
  | resolved alone =>
    obtain ⟨primary, hprimary⟩ := exists_primary_of_resolve hwithout
    have hfailure := outcome_resolveWorkspace_of_unreadable hraw hrefused
    rw [outcome_resolve_of_enabled hprimary henabled, outcome_overlayPart_of_found hfound,
      outcome_resolveOverlay_of_passed hfailure rfl]
    rfl

end

/-! ### Broken overlays -/

namespace Sample

def brokenWorld (octets : List UInt8) : World :=
  { world with tools :=
    { listings := [("/", listing workspaceReport), ("/o", .ended (some octets) none 0)] } }

theorem outcome_queryTree_broken (octets : List UInt8) :
    (queryTree (brokenWorld octets) config.packageManager overlay.toString).outcome =
      .ok (printedText octets) := by
  have hdirectory : (brokenWorld octets).files.isDirectoryText overlay.toString = true :=
    FileSystem.isDirectoryText_of_status_ok status_overlay
  have hlisting : (brokenWorld octets).tools.listing overlay.toString =
      .ended (some octets) none 0 := rfl
  have hquery : (queryTree (brokenWorld octets) config.packageManager overlay.toString).outcome =
      .ok (printedText ((some octets).getD [])) := outcome_queryTree_of_ended hdirectory hlisting
  exact hquery

theorem outcome_resolve_broken_alone (octets : List UInt8) :
    (resolve (brokenWorld octets) config workspace workspace false).outcome =
      .ok (.resolved alone) :=
  outcome_resolve_alone_of_listing rfl rfl

def numberReport : String := "[1]"

theorem printedText_numberReport : printedText [0x5b, 0x31, 0x5d] = numberReport := by
  cbv

theorem outcome_readEntriesOf_numberReport :
    (readEntriesOf numberReport).outcome =
      .error (.malformedReport (.entryNotObject 0 "int") numberReport) := by
  cbv

def onesReport (digits : Nat) : String := String.ofList (List.replicate digits '1')

theorem printedText_onesReport (digits : Nat) :
    printedText (List.replicate digits 0x31) = onesReport digits := by
  have hone : Char.ofNat (0x31 : UInt8).toNat = '1' := by decide
  rw [printedText_of_ascii]
  · rw [List.map_replicate, hone, onesReport]
  · intro b hb
    rw [List.eq_of_mem_replicate hb]
    decide
  · rw [List.map_replicate, hone]
    intro hreturn
    exact absurd (List.eq_of_mem_replicate hreturn) (by decide)

theorem outcome_readEntriesOf_onesReport {digits : Nat} (h : Json.maxIntegerDigits < digits) :
    (readEntriesOf (onesReport digits)).outcome = .error (.integerTooLong digits) := by
  have hdigits : ∀ c ∈ List.replicate digits '1', Json.isDigit c = true := by
    intro c hc
    rw [List.eq_of_mem_replicate hc]
    decide
  have hzero : (List.replicate digits '1').head? ≠ some '0' := by
    intro hhead
    exact absurd (List.eq_of_mem_replicate (List.mem_of_head? hhead)) (by decide)
  have hdecode := Json.decode_of_digits hdigits hzero (by rwa [List.length_replicate])
  rw [List.length_replicate] at hdecode
  exact outcome_readEntriesOf_eq_refused.mpr hdecode

end Sample

/-! ### All reports -/

/-- A report is read, or it has a fault that is told together with the report, or it holds an
integer with too many digits, which the decoder refuses. A fault is an error of the workspace with
the beginning of the report, and a warning on the overlay; the integer ends the run in either
place. -/
theorem report_read_or_told_or_refused (raw : String) :
    ((∃ entries, (readEntriesOf raw).outcome = .ok entries) ∨
      (∃ fault, (readEntriesOf raw).outcome = .error (.malformedReport fault raw)) ∨
      ∃ digits, Json.HasLongInteger raw.toList digits ∧
        (readEntriesOf raw).outcome = .error (.integerTooLong digits)) ∧
    (∀ digits, (readEntriesOf raw).outcome = .error (.integerTooLong digits) ↔
      Json.decode raw = .error (.integerTooLong digits)) ∧
    ∀ world config folder,
      (queryTree world config.packageManager folder.toString).outcome = .ok raw →
        (∀ fault, (readEntriesOf raw).outcome = .error (.malformedReport fault raw) →
          (∀ repoRoot wantsOverlay,
            (resolve world config folder repoRoot wantsOverlay).outcome =
              .ok (.failed folder repoRoot fault.message (some (excerpt raw excerptLimit)))) ∧
          ∀ workspace repoRoot without, config.overlay = true →
            OverlayFound world.files workspace repoRoot config.overlayFolder folder →
              (resolve world config workspace repoRoot false).outcome = .ok without →
                (resolve world config workspace repoRoot true).outcome =
                  .ok (without.skippingOverlay folder fault.message)) ∧
        ∀ digits, (readEntriesOf raw).outcome = .error (.integerTooLong digits) →
          (∀ repoRoot wantsOverlay,
            (resolve world config folder repoRoot wantsOverlay).outcome =
              .error (.integerTooLong digits)) ∧
          ∀ workspace repoRoot without, config.overlay = true →
            OverlayFound world.files workspace repoRoot config.overlayFolder folder →
              (resolve world config workspace repoRoot false).outcome = .ok without →
                without.ok = true →
                  (resolve world config workspace repoRoot true).outcome =
                    .error (.integerTooLong digits) := by
  refine ⟨?_, fun digits => outcome_readEntriesOf_eq_refused, ?_⟩
  · have hends := readEntriesOf_ends raw
    cases houtcome : (readEntriesOf raw).outcome with
    | ok entries => exact Or.inl ⟨entries, rfl⟩
    | error failure =>
      rw [houtcome] at hends
      cases hends with
      | malformed => exact Or.inr (Or.inl ⟨_, rfl⟩)
      | refused hdecode =>
        exact Or.inr (Or.inr ⟨_, Json.hasLongInteger_of_decode hdecode, rfl⟩)
  · intro world config folder hraw
    refine ⟨fun fault hfault => ⟨?_, ?_⟩, fun digits hrefused => ⟨?_, ?_⟩⟩
    · intro repoRoot wantsOverlay
      exact outcome_resolve_of_malformed wantsOverlay hraw hfault
    · intro workspace repoRoot without henabled hfound hwithout
      exact outcome_resolve_of_malformed_overlay henabled hfound hraw hfault hwithout
    · intro repoRoot wantsOverlay
      exact outcome_resolve_of_refused wantsOverlay hraw hrefused
    · intro workspace repoRoot without henabled hfound hwithout hok
      exact outcome_resolve_of_refused_overlay henabled hfound hraw hrefused hwithout hok

/-- A number among the entries and an integer of 4301 digits, each as the report of a workspace and
as that of its overlay. -/
theorem broken_reports_told_or_refused :
    (∀ octets, (resolve (Sample.brokenWorld octets) Sample.config Sample.workspace
        Sample.workspace false).outcome = .ok (.resolved Sample.alone)) ∧
      (resolve (Sample.brokenWorld [0x5b, 0x31, 0x5d]) Sample.config Sample.overlay
          Sample.workspace true).outcome =
        .ok (.failed Sample.overlay Sample.workspace
          "Expected an object for workspace entry 0, got int" (some "[1]")) ∧
      (resolve (Sample.brokenWorld [0x5b, 0x31, 0x5d]) Sample.config Sample.workspace
          Sample.workspace true).outcome =
        .ok (.resolved { Sample.alone with
          overlayRoot := some Sample.overlay
          warnings :=
            ["Overlay skipped: Expected an object for workspace entry 0, got int"] }) ∧
      (resolve (Sample.brokenWorld (List.replicate 4301 0x31)) Sample.config Sample.overlay
          Sample.workspace true).outcome = .error (.integerTooLong 4301) ∧
      (resolve (Sample.brokenWorld (List.replicate 4301 0x31)) Sample.config Sample.workspace
          Sample.workspace true).outcome = .error (.integerTooLong 4301) := by
  have hnumber : (queryTree (Sample.brokenWorld [0x5b, 0x31, 0x5d]) Sample.config.packageManager
      Sample.overlay.toString).outcome = .ok Sample.numberReport := by
    rw [Sample.outcome_queryTree_broken, Sample.printedText_numberReport]
  have hones : (queryTree (Sample.brokenWorld (List.replicate 4301 0x31))
      Sample.config.packageManager Sample.overlay.toString).outcome =
        .ok (Sample.onesReport 4301) := by
    rw [Sample.outcome_queryTree_broken, Sample.printedText_onesReport]
  have hrefused : (readEntriesOf (Sample.onesReport 4301)).outcome =
      .error (.integerTooLong 4301) := Sample.outcome_readEntriesOf_onesReport (by decide)
  obtain ⟨htold, hskipped⟩ := ((report_read_or_told_or_refused Sample.numberReport).2.2 _ _ _
    hnumber).1 _ Sample.outcome_readEntriesOf_numberReport
  obtain ⟨hends, hlost⟩ := ((report_read_or_told_or_refused (Sample.onesReport 4301)).2.2 _ _ _
    hones).2 _ hrefused
  refine ⟨Sample.outcome_resolve_broken_alone, ?_, ?_, hends _ _, ?_⟩
  · rw [htold Sample.workspace true]
    decide
  · rw [hskipped _ _ _ rfl Sample.overlayFound (Sample.outcome_resolve_broken_alone _)]
    decide
  · exact hlost _ _ _ rfl Sample.overlayFound (Sample.outcome_resolve_broken_alone _) rfl

/-- Not every report is read or has a fault that is told. -/
theorem long_integer_not_told :
    ¬ ∀ raw : String, (∃ entries, (readEntriesOf raw).outcome = .ok entries) ∨
      ∃ fault, (readEntriesOf raw).outcome = .error (.malformedReport fault raw) := by
  intro htold
  have hrefused : (readEntriesOf (Sample.onesReport 4301)).outcome =
      .error (.integerTooLong 4301) := Sample.outcome_readEntriesOf_onesReport (by decide)
  rcases htold (Sample.onesReport 4301) with ⟨entries, h⟩ | ⟨fault, h⟩
  · rw [hrefused] at h
    cases h
  · rw [hrefused] at h
    cases h

end ProductionClosure

import ProductionClosure.Proofs.FileSystem.Lookup
import ProductionClosure.Proofs.PackageManager.Operation
import ProductionClosure.Proofs.Run

/-!
What becomes of an action. An action that asks for an operation in a folder that is there is carried
out, and its receipt is one of success exactly if the process ran to exit code zero, for the version
with something to show. All other actions get receipts of failure, but for a few that get none: the
operation cannot be looked up or shown, or the question for the version does not start for a NUL or
ends without an output stream.
-/

namespace ProductionClosure

/-- An action whose process runs to exit code zero, with the output that it is asked for. -/
inductive ActionContext.Succeeds (world : World) (context : ActionContext) : String → Prop where
  | ls {stdout stderr : Option (List UInt8)} (h : context.Asks world.files .ls)
      (hended : world.tools.listing context.folder = .ended stdout stderr 0) :
      Succeeds world context (printedText (stdout.getD []))
  | version {stdout : List UInt8} {stderr : Option (List UInt8)}
      (h : context.Asks world.files .version)
      (hended : world.tools.version = some (.ended (some stdout) stderr 0))
      (hshown : Text.trim (printedText stdout) ≠ "") :
      Succeeds world context (Text.trim (printedText stdout))

/-- The failures that end an action without a receipt. -/
inductive ActionContext.Uncaught (world : World) (packageManager : String)
    (context : ActionContext) : Failure → Prop where
  | unfit {failure : Failure} (h : Operation.Unfit context.action.params failure) :
      Uncaught world packageManager context failure
  | notStarted (h : context.Asks world.files .version)
      (hstart : world.tools.version = some (.notStarted .nulCharacter)) :
      Uncaught world packageManager context
        (.notStarted .nulCharacter (world.tools.platform.executable packageManager))
  | noText {stderr : Option (List UInt8)} (h : context.Asks world.files .version)
      (hended : world.tools.version = some (.ended none stderr 0)) :
      Uncaught world packageManager context .noVersionText

/-- A receipt that tells how an action went: it names the action, it is one of success exactly if
the action succeeded, with its output, and one of failure has something to say. -/
structure Receipt.AccountsFor (world : World) (context : ActionContext) (receipt : Receipt) :
    Prop where
  adapter : receipt.adapter = PackageManager.adapterName
  action : receipt.actionId = context.action.id
  succeeds_iff : ∀ output, context.Succeeds world output ↔
    receipt.status = "ok" ∧ receipt.output = output
  failed_iff : (∀ output, ¬ context.Succeeds world output) ↔ receipt.status = "failed"
  error_iff : receipt.status = "failed" ↔ receipt.error.isSome = true

namespace PackageManager

variable {world : World} {packageManager : String} {context : ActionContext}

/-! ### The question for the version -/

theorem outcome_version_eq_error (packageManager : String) {failure : Failure} :
    (version world packageManager).outcome = .error failure ↔
      (world.tools.version = some (.notStarted .nulCharacter) ∧
        failure = .notStarted .nulCharacter (world.tools.platform.executable packageManager)) ∨
      ((∃ stderr, world.tools.version = some (.ended none stderr 0)) ∧
        failure = .noVersionText) := by
  simp only [version, Run.bind_eq, Run.outcome_start_andThen]
  split
  · next h => simp [h]
  · next h => simp [h, eq_comm]
  · next h => simp [h, eq_comm]
  · next hshown hsilent hnul =>
    simp only [Run.pure_eq, Run.outcome_done, reduceCtorEq, false_iff]
    rintro (⟨h, -⟩ | ⟨⟨stderr, h⟩, -⟩)
    · exact hnul h
    · exact hsilent stderr h

theorem outcome_version_eq_some {text : String} :
    (version world packageManager).outcome = .ok (some text) ↔
      ∃ stdout stderr, world.tools.version = some (.ended (some stdout) stderr 0) ∧
        Text.trim (printedText stdout) = text := by
  simp only [version, Run.bind_eq, Run.outcome_start_andThen]
  split
  · next h => simp [h]
  · next h => simp [h]
  · next h => simp [h]
  · next hshown hsilent hnul =>
    simp only [Run.pure_eq, Run.outcome_done, Except.ok.injEq, reduceCtorEq, false_iff]
    rintro ⟨stdout, stderr, h, -⟩
    exact hshown stdout stderr h

/-! ### The receipts -/

/-- What the receipt of an action is, by the operation that it comes to. -/
theorem outcome_execute (world : World) (packageManager : String) (context : ActionContext) :
    (execute world packageManager context).outcome =
      (Operation.ofContext world.files context).bind fun
        | .error refusal => .ok (failed context refusal.message [])
        | .ok .version => (version world packageManager).outcome.map (versionReceipt context)
        | .ok .ls => .ok (listingReceipt context (world.tools.platform.executable packageManager)
            (Listing.ofOutcome (world.tools.listing context.folder))) := by
  simp only [execute, Run.bind_eq]
  cases Operation.ofContext world.files context with
  | error failure => rfl
  | ok asked =>
    cases asked with
    | error refusal => rfl
    | ok operation =>
      cases operation with
      | ls => rfl
      | version =>
        simp only [Run.outcome_ok_andThen]
        cases h : (version world packageManager).outcome with
        | error failure => simp only [Run.outcome_andThen_of_error h]; rfl
        | ok text => simp only [Run.outcome_andThen_of_ok h]; rfl

theorem outcome_execute_eq_error {failure : Failure} :
    (execute world packageManager context).outcome = .error failure ↔
      context.Uncaught world packageManager failure := by
  rw [outcome_execute]
  constructor
  · intro h
    cases hasked : Operation.ofContext world.files context with
    | error other =>
      rw [hasked] at h
      cases h
      exact .unfit (Operation.ofContext_eq_error.mp hasked)
    | ok asked =>
      rw [hasked] at h
      cases asked with
      | error refusal => cases h
      | ok operation =>
        have hasks := Operation.ofContext_eq_ok_ok.mp hasked
        cases operation with
        | ls => cases h
        | version =>
          cases hversion : (version world packageManager).outcome with
          | ok text => simp [Except.bind, hversion, Except.map] at h
          | error other =>
            simp only [Except.bind, hversion, Except.map] at h
            cases h
            rcases (outcome_version_eq_error _).mp hversion with ⟨hstart, rfl⟩ | ⟨⟨_, hended⟩, rfl⟩
            · exact .notStarted hasks hstart
            · exact .noText hasks hended
  · intro h
    cases h with
    | unfit h => rw [Operation.ofContext_eq_error.mpr h]; rfl
    | notStarted hasks hstart =>
      have hversion := (outcome_version_eq_error packageManager).mpr
        (Or.inl ⟨hstart, rfl⟩)
      simp only [Operation.ofContext_eq_ok_ok.mpr hasks, Except.bind, hversion, Except.map]
    | noText hasks hended =>
      have hversion := (outcome_version_eq_error packageManager).mpr
        (Or.inr ⟨⟨_, hended⟩, rfl⟩)
      simp only [Operation.ofContext_eq_ok_ok.mpr hasks, Except.bind, hversion, Except.map]

theorem succeeds_iff_of_ls (h : context.Asks world.files .ls) (output : String) :
    context.Succeeds world output ↔
      ∃ complaints, Listing.ofOutcome (world.tools.listing context.folder) =
        .ended output complaints 0 := by
  constructor
  · intro hsucceeds
    cases hsucceeds with
    | ls _ hended => exact ⟨_, by rw [hended]; rfl⟩
    | version hversion => cases h.unique hversion
  · rintro ⟨complaints, hlisting⟩
    cases hended : world.tools.listing context.folder with
    | notStarted | refused => simp [hended, Listing.ofOutcome] at hlisting
    | ended stdout stderr code =>
      simp only [hended, Listing.ofOutcome, Listing.ended.injEq] at hlisting
      obtain ⟨rfl, -, rfl⟩ := hlisting
      exact .ls h hended

theorem succeeds_iff_of_version (packageManager : String) (h : context.Asks world.files .version)
    (output : String) :
    context.Succeeds world output ↔
      (version world packageManager).outcome = .ok (some output) ∧ output ≠ "" := by
  rw [outcome_version_eq_some]
  constructor
  · intro hsucceeds
    cases hsucceeds with
    | ls hls => cases h.unique hls
    | version _ hended hshown => exact ⟨⟨_, _, hended, rfl⟩, hshown⟩
  · rintro ⟨⟨stdout, stderr, hended, rfl⟩, hshown⟩
    exact .version h hended hshown

theorem accountsFor_failed {error : String} {metadata : Json.Members}
    (h : ∀ output, ¬ context.Succeeds world output) :
    (failed context error metadata).AccountsFor world context where
  adapter := rfl
  action := rfl
  succeeds_iff output := by simp [h output, failed, Receipt.status]
  failed_iff := by simp [h, failed, Receipt.status]
  error_iff := by simp [failed, Receipt.status]

theorem accountsFor_succeeded {output : String} {metadata : Json.Members}
    (h : ∀ other, context.Succeeds world other ↔ output = other) :
    (succeeded context output metadata).AccountsFor world context where
  adapter := rfl
  action := rfl
  succeeds_iff other := by simp [h other, succeeded, Receipt.status]
  failed_iff := by simp [h, succeeded, Receipt.status]
  error_iff := by simp [succeeded, Receipt.status]

theorem accountsFor_listingReceipt (executable : String) (h : context.Asks world.files .ls) :
    (listingReceipt context executable
      (Listing.ofOutcome (world.tools.listing context.folder))).AccountsFor world context := by
  have hsucceeds := succeeds_iff_of_ls h
  cases hlisting : Listing.ofOutcome (world.tools.listing context.folder) with
  | notStarted | refused =>
    refine accountsFor_failed fun output hok => ?_
    simp [hsucceeds, hlisting] at hok
  | ended output complaints code =>
    by_cases hcode : code = 0
    · subst hcode
      refine accountsFor_succeeded fun other => ?_
      simp [hsucceeds, hlisting]
    · simp only [listingReceipt, if_neg hcode]
      refine accountsFor_failed fun other hok => ?_
      simp [hsucceeds, hlisting, hcode] at hok

theorem accountsFor_versionReceipt (h : context.Asks world.files .version) {text : Option String}
    (hversion : (version world packageManager).outcome = .ok text) :
    (versionReceipt context text).AccountsFor world context := by
  have hsucceeds := succeeds_iff_of_version packageManager h
  rw [hversion] at hsucceeds
  cases text with
  | none =>
    refine accountsFor_failed fun output hok => ?_
    simp [hsucceeds] at hok
  | some text =>
    by_cases hempty : text = ""
    · subst hempty
      -- an empty version is taken for none at all
      refine accountsFor_failed fun output hok => ?_
      simp only [hsucceeds, Except.ok.injEq, Option.some.injEq] at hok
      exact hok.2 hok.1.symm
    · have hshown : (some text).filter (· ≠ "") = some text := by simp [hempty]
      simp only [versionReceipt, hshown]
      refine accountsFor_succeeded fun other => ?_
      simp only [hsucceeds, Except.ok.injEq, Option.some.injEq]
      exact ⟨And.left, fun heq => ⟨heq, heq ▸ hempty⟩⟩

theorem accountsFor_of_execute {receipt : Receipt}
    (h : (execute world packageManager context).outcome = .ok receipt) :
    receipt.AccountsFor world context := by
  rw [outcome_execute] at h
  cases hasked : Operation.ofContext world.files context with
  | error failure =>
    rw [hasked] at h
    cases h
  | ok asked =>
    rw [hasked] at h
    cases asked with
    | error refusal =>
      cases h
      -- an action that succeeds has asked for an operation, and then it is not refused
      refine accountsFor_failed fun output hok => ?_
      have hasks : ∃ operation, context.Asks world.files operation := by
        cases hok with
        | ls h | version h => exact ⟨_, h⟩
      obtain ⟨operation, hasks⟩ := hasks
      rw [Operation.ofContext_eq_ok_ok.mpr hasks] at hasked
      cases hasked
    | ok operation =>
      have hasks := Operation.ofContext_eq_ok_ok.mp hasked
      cases operation with
      | ls =>
        cases h
        exact accountsFor_listingReceipt _ hasks
      | version =>
        cases hversion : (version world packageManager).outcome with
        | error failure => simp [Except.bind, hversion, Except.map] at h
        | ok text =>
          simp only [Except.bind, hversion, Except.map] at h
          cases h
          exact accountsFor_versionReceipt hasks hversion

/-- Every action gets a receipt that accounts for it, unless it meets one of the failures that are
not caught, and then it ends in that failure. -/
theorem receipt_unless_uncaught (world : World) (packageManager : String)
    (context : ActionContext) :
    (∀ failure, (execute world packageManager context).outcome = .error failure ↔
      context.Uncaught world packageManager failure) ∧
    ((∀ failure, ¬ context.Uncaught world packageManager failure) →
      ∃ receipt, (execute world packageManager context).outcome = .ok receipt ∧
        receipt.AccountsFor world context) := by
  refine ⟨fun failure => outcome_execute_eq_error, ?_⟩
  intro hcaught
  cases houtcome : (execute world packageManager context).outcome with
  | error failure => exact absurd (outcome_execute_eq_error.mp houtcome) (hcaught failure)
  | ok receipt => exact ⟨receipt, rfl, accountsFor_of_execute houtcome⟩

/-- A world where the question for the version does not start for a NUL in the executable's name. -/
def nulWorld : World where
  files := .empty
  tools := { version := some (.notStarted .nulCharacter) }
  environment := []

def rootContext (operation : Json) : ActionContext where
  action := ⟨"act", "", adapterName, [("operation", operation)]⟩
  folder := "/"

theorem asks_rootContext (operation : Operation) :
    (rootContext (.string operation.name)).Asks nulWorld.files operation where
  named := rfl
  folder := FileSystem.isDirectoryText_of_status_ok (FileSystem.status_root _)

theorem not_uncaught_ls (failure : Failure) :
    ¬ (rootContext (.string "ls")).Uncaught nulWorld "pnpm" failure := by
  have hls : (rootContext (.string "ls")).Asks nulWorld.files .ls := asks_rootContext .ls
  intro huncaught
  cases huncaught with
  | unfit h => cases h with
    | array h | object h | integer h => cases h
  | notStarted h | noText h => cases hls.unique h

/-- The version of a package manager with a NUL in its name gets no receipt, and a listing without a
manifest gets one of failure. -/
theorem nul_in_version_uncaught :
    (execute nulWorld "pnpm" (rootContext (.string "version"))).outcome =
        .error (.notStarted .nulCharacter "pnpm") ∧
      ∃ receipt, (execute nulWorld "pnpm" (rootContext (.string "ls"))).outcome = .ok receipt ∧
        receipt.AccountsFor nulWorld (rootContext (.string "ls")) ∧ receipt.status = "failed" := by
  refine ⟨((receipt_unless_uncaught _ _ _).1 _).mpr (.notStarted (asks_rootContext .version) rfl),
    ?_⟩
  obtain ⟨receipt, houtcome, haccounts⟩ :=
    (receipt_unless_uncaught nulWorld "pnpm" (rootContext (.string "ls"))).2 not_uncaught_ls
  refine ⟨receipt, houtcome, haccounts, haccounts.failed_iff.mp ?_⟩
  intro output hsucceeds
  obtain ⟨complaints, hlisting⟩ := (succeeds_iff_of_ls (asks_rootContext .ls) output).mp hsucceeds
  cases hlisting

/-- Not every action gets a receipt. -/
theorem not_every_action_has_receipt :
    ¬ ∀ world packageManager context, ∃ receipt,
      (execute world packageManager context).outcome = .ok receipt := by
  intro hhasReceipt
  obtain ⟨receipt, hreceipt⟩ := hhasReceipt nulWorld "pnpm" (rootContext (.string "version"))
  have hfailure : (execute nulWorld "pnpm" (rootContext (.string "version"))).outcome =
      .error (.notStarted .nulCharacter "pnpm") :=
    outcome_execute_eq_error.mpr (.notStarted (asks_rootContext .version) rfl)
  rw [hfailure] at hreceipt
  cases hreceipt

end PackageManager

end ProductionClosure

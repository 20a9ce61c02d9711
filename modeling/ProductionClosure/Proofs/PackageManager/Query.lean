import Mathlib.Data.List.TakeWhile
import ProductionClosure.PackageManager.Query
import ProductionClosure.Proofs.PackageManager.Receipt

/-!
When a folder has a report on its production dependencies. Output wins over the exit code: there is
a report exactly if the folder is there and the listing ran to exit code zero or printed something
that is not blank, and the report is then all that it printed. In every other case there is a reason
that can be read. Nothing of this gets lost on the way through a receipt, which keeps the output of
a success in one place and that of a failure in another.
-/

namespace ProductionClosure

/-! ### Blank texts -/

namespace Text

theorem trimChars_eq_nil {test : Char → Bool} {cs : List Char} :
    trimChars test cs = [] ↔ ∀ c ∈ cs, test c = true := by
  rw [trimChars, List.reverse_eq_nil_iff, List.dropWhile_eq_nil_iff]
  constructor
  · intro h
    by_cases hrest : cs.dropWhile test = []
    · exact List.dropWhile_eq_nil_iff.mp hrest
    · -- the first pass stops at a character outside the class, which the second one cannot drop
      have hhead := h _ (List.mem_reverse.mpr (List.head_mem hrest))
      rw [List.head_dropWhile_not test] at hhead
      cases hhead
  · intro h c hc
    exact h c ((List.dropWhile_sublist test).subset (List.mem_reverse.mp hc))

theorem trim_eq_empty_iff {s : String} : trim s = "" ↔ ∀ c ∈ s.toList, isBlank c = true := by
  rw [← trimChars_eq_nil, trim, String.ofList_eq_empty_iff]

theorem allBlank_eq_true_iff {s : String} :
    allBlank s = true ↔ ∀ c ∈ s.toList, isBlank c = true :=
  List.all_eq_true

theorem exists_not_blank_iff {s : String} :
    (∃ c ∈ s.toList, isBlank c = false) ↔ ¬ ∀ c ∈ s.toList, isBlank c = true := by
  simp

end Text

/-! ### Reports and reasons -/

/-- The text of a stream. A stream that is missing altogether has none. -/
def streamText : Option (List UInt8) → String
  | none => ""
  | some octets => printedText octets

theorem printedText_getD (stream : Option (List UInt8)) :
    printedText (stream.getD []) = streamText stream := by
  cases stream with
  | none => decide +kernel
  | some octets => rfl

/-- The report of a folder. -/
inductive Reported (world : World) (folder : String) : String → Prop where
  | ended {stdout stderr : Option (List UInt8)} {code : Int}
      (hfolder : world.files.isDirectoryText folder = true)
      (hended : world.tools.listing folder = .ended stdout stderr code)
      (husable : code = 0 ∨ ∃ c ∈ (streamText stdout).toList, Text.isBlank c = false) :
      Reported world folder (streamText stdout)

/-- Why a folder has no report. -/
inductive Unreported (world : World) (executable folder : String) : String → Prop where
  | noFolder (hfolder : world.files.isDirectoryText folder = false) :
      Unreported world executable folder s!"Working directory does not exist: {folder}"
  | notStarted {problem : StartProblem} (hfolder : world.files.isDirectoryText folder = true)
      (hstart : world.tools.listing folder = .notStarted problem) :
      Unreported world executable folder
        s!"Cannot run {executable}: {problem.message executable}"
  | refused {words : String} (hfolder : world.files.isDirectoryText folder = true)
      (hstart : world.tools.listing folder = .refused words) :
      Unreported world executable folder s!"Cannot run {executable}: {words}"
  | told {stdout stderr : Option (List UInt8)} {code : Int}
      (hfolder : world.files.isDirectoryText folder = true)
      (hended : world.tools.listing folder = .ended stdout stderr code) (hcode : code ≠ 0)
      (hsilent : ∀ c ∈ (streamText stdout).toList, Text.isBlank c = true)
      (htold : ∃ c ∈ (streamText stderr).toList, Text.isBlank c = false) :
      Unreported world executable folder (Text.trim (streamText stderr))
  | untold {stdout stderr : Option (List UInt8)} {code : Int}
      (hfolder : world.files.isDirectoryText folder = true)
      (hended : world.tools.listing folder = .ended stdout stderr code) (hcode : code ≠ 0)
      (hsilent : ∀ c ∈ (streamText stdout).toList, Text.isBlank c = true)
      (huntold : ∀ c ∈ (streamText stderr).toList, Text.isBlank c = true) :
      Unreported world executable folder s!"Command exited with code {code}"

theorem reported_or_unreported (world : World) (executable folder : String) :
    (∃ text, Reported world folder text) ∨ ∃ detail, Unreported world executable folder detail := by
  cases hfolder : world.files.isDirectoryText folder with
  | false => exact Or.inr ⟨_, .noFolder hfolder⟩
  | true =>
    cases hlisting : world.tools.listing folder with
    | notStarted problem => exact Or.inr ⟨_, .notStarted hfolder hlisting⟩
    | refused words => exact Or.inr ⟨_, .refused hfolder hlisting⟩
    | ended stdout stderr code =>
      by_cases husable : code = 0 ∨ ∃ c ∈ (streamText stdout).toList, Text.isBlank c = false
      · exact Or.inl ⟨_, .ended hfolder hlisting husable⟩
      · rw [not_or, Text.exists_not_blank_iff, not_not] at husable
        obtain ⟨hcode, hsilent⟩ := husable
        by_cases huntold : ∀ c ∈ (streamText stderr).toList, Text.isBlank c = true
        · exact Or.inr ⟨_, .untold hfolder hlisting hcode hsilent huntold⟩
        · have htold := Text.exists_not_blank_iff.mpr huntold
          exact Or.inr ⟨_, .told hfolder hlisting hcode hsilent htold⟩

theorem noFolderText_ne_empty (folder : String) : noFolderText folder ≠ "" := by
  unfold noFolderText
  simp [toString]

theorem Listing.errorText_ne_empty (executable : String) (listing : Listing) :
    listing.errorText executable ≠ "" := by
  cases listing with
  | notStarted | refused => simp [errorText, toString]
  | ended output complaints code =>
    rw [errorText]
    split
    · simp [toString]
    · assumption

theorem Unreported.ne_empty {world : World} {executable folder detail : String}
    (h : Unreported world executable folder detail) : detail ≠ "" := by
  cases h with
  | noFolder | notStarted | refused | untold => simp [toString]
  | told _ _ _ _ htold =>
    exact mt Text.trim_eq_empty_iff.mp (Text.exists_not_blank_iff.mp htold)

/-! ### The query -/

section

variable {world : World} {packageManager folder text detail : String}

theorem outcome_queryTree_of_folder (packageManager : String)
    (hfolder : world.files.isDirectoryText folder = true) :
    (queryTree world packageManager folder).outcome =
      ((Listing.ofOutcome (world.tools.listing folder)).usable
        (world.tools.platform.executable packageManager) folder).outcome := by
  rw [queryTree, if_pos hfolder]
  rfl

theorem outcome_queryTree_of_reported (packageManager : String)
    (h : Reported world folder text) :
    (queryTree world packageManager folder).outcome = .ok text := by
  obtain ⟨hfolder, hended, husable⟩ := h
  rw [outcome_queryTree_of_folder packageManager hfolder, hended, Listing.ofOutcome,
    printedText_getD, Listing.usable]
  split
  · rfl
  · next hcode =>
    have hblank := Text.exists_not_blank_iff.mp (husable.resolve_left hcode)
    rw [if_neg (mt Text.allBlank_eq_true_iff.mp hblank)]
    rfl

theorem outcome_queryTree_of_unreported
    (h : Unreported world (world.tools.platform.executable packageManager) folder detail) :
    (queryTree world packageManager folder).outcome =
      .error (.sourceUnavailable folder detail) := by
  cases h with
  | noFolder hfolder =>
    rw [queryTree, if_neg (Bool.eq_false_iff.mp hfolder)]
    rfl
  | notStarted hfolder hstart | refused hfolder hstart =>
    rw [outcome_queryTree_of_folder packageManager hfolder, hstart]
    rfl
  | told hfolder hended hcode hsilent htold =>
    have hshown := mt Text.trim_eq_empty_iff.mp (Text.exists_not_blank_iff.mp htold)
    rw [outcome_queryTree_of_folder packageManager hfolder, hended, Listing.ofOutcome,
      printedText_getD, printedText_getD, Listing.usable, if_neg hcode,
      if_pos (Text.allBlank_eq_true_iff.mpr hsilent), Listing.errorText, if_neg hshown]
    rfl
  | untold hfolder hended hcode hsilent huntold =>
    rw [outcome_queryTree_of_folder packageManager hfolder, hended, Listing.ofOutcome,
      printedText_getD, printedText_getD, Listing.usable, if_neg hcode,
      if_pos (Text.allBlank_eq_true_iff.mpr hsilent), Listing.errorText,
      if_pos (Text.trim_eq_empty_iff.mpr huntold)]
    rfl

end

/-! ### The way through the receipt -/

namespace PackageManager

variable {world : World} {context : ActionContext}

theorem report_failed_of_silent {error : String} {metadata : Json.Members}
    (executable folder : String) (herror : error ≠ "")
    (hsilent : Text.allBlank (failed context error metadata).keptOutput = true) :
    (failed context error metadata).report executable folder =
      Run.fail (.sourceUnavailable folder error) := by
  have hkept : (some error).filter (· ≠ "") = some error := by simp [herror]
  have hfailed : ¬ (failed context error metadata).ok = true := Bool.false_ne_true
  rw [Receipt.report, if_neg hfailed, if_pos hsilent]
  simp only [failed, hkept, Option.getD_some]

/-- The receipt of a listing gives the text that the listing is good for. -/
theorem report_listingReceipt (context : ActionContext) (executable folder : String)
    (listing : Listing) :
    (listingReceipt context executable listing).report executable folder =
      listing.usable executable folder := by
  have herror := listing.errorText_ne_empty executable
  cases listing with
  | notStarted | refused => exact report_failed_of_silent executable folder herror rfl
  | ended output complaints code =>
    by_cases hcode : code = 0
    · rw [listingReceipt, Listing.usable, if_pos hcode, if_pos hcode]
      rfl
    · rw [listingReceipt, Listing.usable, if_neg hcode, if_neg hcode]
      cases hblank : Text.allBlank output with
      | true => exact report_failed_of_silent executable folder herror hblank
      | false =>
        rw [Receipt.report, if_neg Bool.false_ne_true]
        exact if_neg (Bool.eq_false_iff.mp hblank)

theorem execute_of_no_folder (packageManager : String) {operation : Operation}
    (hnamed : context.action.params.get? "operation" = some (.string operation.name))
    (hfolder : world.files.isDirectoryText context.folder = false) :
    execute world packageManager context =
      Run.done (failed context (noFolderText context.folder) []) := by
  have hrefused : Operation.ofContext world.files context =
      .ok (.error (.noFolder context.folder)) := by
    rw [Operation.ofContext, Operation.ofParams_eq_ok_ok.mpr hnamed]
    exact if_neg (Bool.eq_false_iff.mp hfolder)
  rw [execute, hrefused]
  rfl

theorem execute_of_ls (packageManager : String) (h : context.Asks world.files .ls) :
    execute world packageManager context =
      (Listing.run world (world.tools.platform.executable packageManager) context.folder
        context.environment).andThen fun listing =>
          Run.done (listingReceipt context (world.tools.platform.executable packageManager)
            listing) := by
  rw [execute, Operation.ofContext_eq_ok_ok.mpr h]
  rfl

theorem queryTree_eq_report (world : World) (packageManager folder : String) :
    queryTree world packageManager folder =
      (execute world packageManager (listingContext folder)).andThen
        (Receipt.report (world.tools.platform.executable packageManager) folder) := by
  have hnamed : (listingContext folder).action.params.get? "operation" =
      some (.string Operation.ls.name) := rfl
  cases hfolder : world.files.isDirectoryText folder with
  | false =>
    rw [queryTree, if_neg (Bool.eq_false_iff.mp hfolder),
      execute_of_no_folder packageManager hnamed hfolder, Run.done_andThen]
    exact (report_failed_of_silent _ folder (noFolderText_ne_empty folder) (by rfl)).symm
  | true =>
    rw [queryTree, if_pos hfolder, execute_of_ls packageManager ⟨hnamed, hfolder⟩,
      Run.andThen_andThen]
    simp only [Run.done_andThen, report_listingReceipt]
    rfl

end PackageManager

/-! ### Reported or explained -/

/-- There is a report exactly if the listing left one, with or without the way through the receipt;
otherwise the query fails, for a reason that it gives. -/
theorem query_reports_unless_silent (world : World) (packageManager folder : String) :
    queryTree world packageManager folder =
        (PackageManager.execute world packageManager
          (PackageManager.listingContext folder)).andThen
          (Receipt.report (world.tools.platform.executable packageManager) folder) ∧
      (∀ text, (queryTree world packageManager folder).outcome = .ok text ↔
        Reported world folder text) ∧
      ∀ failure, (queryTree world packageManager folder).outcome = .error failure ↔
        ∃ detail, failure = .sourceUnavailable folder detail ∧ detail ≠ "" ∧
          Unreported world (world.tools.platform.executable packageManager) folder detail := by
  refine ⟨PackageManager.queryTree_eq_report world packageManager folder, ?_, ?_⟩
  · intro text
    refine ⟨fun houtcome => ?_, outcome_queryTree_of_reported packageManager⟩
    rcases reported_or_unreported world (world.tools.platform.executable packageManager) folder
      with ⟨other, hreported⟩ | ⟨detail, hunreported⟩
    · rw [outcome_queryTree_of_reported packageManager hreported] at houtcome
      cases houtcome
      exact hreported
    · rw [outcome_queryTree_of_unreported hunreported] at houtcome
      cases houtcome
  · intro failure
    constructor
    · intro houtcome
      rcases reported_or_unreported world (world.tools.platform.executable packageManager) folder
        with ⟨text, hreported⟩ | ⟨detail, hunreported⟩
      · rw [outcome_queryTree_of_reported packageManager hreported] at houtcome
        cases houtcome
      · rw [outcome_queryTree_of_unreported hunreported] at houtcome
        cases houtcome
        exact ⟨detail, rfl, hunreported.ne_empty, hunreported⟩
    · rintro ⟨detail, rfl, -, hunreported⟩
      exact outcome_queryTree_of_unreported hunreported

def killedWorld (stdout : List UInt8) : World where
  files := .empty
  tools := { listings := [("/", .ended (some stdout) (some [0x0a]) (-9))] }
  environment := []

/-- What a killed listing printed is used, and silence is told by the exit code. -/
theorem killed_listing_is_reported :
    (queryTree (killedWorld [0x5b, 0x5d]) "pnpm" "/").outcome = .ok "[]" ∧
      (queryTree (killedWorld [0x20]) "pnpm" "/").outcome =
        .error (.sourceUnavailable "/" "Command exited with code -9") := by
  have hroot (stdout : List UInt8) : (killedWorld stdout).files.isDirectoryText "/" = true :=
    FileSystem.isDirectoryText_of_status_ok (FileSystem.status_root _)
  have hprinted : streamText (some [0x5b, 0x5d]) = "[]" := by decide +kernel
  have hsilent : streamText (some [0x20]) = " " := by decide +kernel
  have huntold : streamText (some [0x0a]) = "\n" := by decide +kernel
  constructor
  · rw [← hprinted]
    refine ((query_reports_unless_silent _ "pnpm" "/").2.1 _).mpr (.ended (hroot _) rfl (Or.inr ?_))
    exact ⟨'[', by rw [hprinted]; decide, by decide⟩
  · refine ((query_reports_unless_silent _ "pnpm" "/").2.2 _).mpr ⟨_, rfl, by decide, ?_⟩
    refine .untold (hroot _) rfl (by decide) (Text.allBlank_eq_true_iff.mp ?_)
      (Text.allBlank_eq_true_iff.mp ?_)
    · rw [hsilent]
      decide
    · rw [huntold]
      decide

end ProductionClosure

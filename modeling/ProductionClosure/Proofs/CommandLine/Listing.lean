import ProductionClosure.Proofs.CommandLine.Arguments
import ProductionClosure.Proofs.CommandLine.Execution
import ProductionClosure.Proofs.Json.Printer
import ProductionClosure.Proofs.Resolution.Paths
import ProductionClosure.Proofs.Text.Pieces

/-!
The listing on standard output. A run of the command that lists paths either comes to a result, and
then its standard output is made of the paths of the result alone and gives them back, or it shows
nothing there and does not exit with 0.
-/

namespace ProductionClosure.CommandLine

/-! ### Lines -/

theorem behindCode?_of_no_escape {cs : List Char} (h : '\x1b' ∉ cs) : behindCode? cs = none := by
  unfold behindCode?
  split
  · exact absurd List.mem_cons_self h
  · rfl

theorem withoutCodes_of_no_escape {cs : List Char} (h : '\x1b' ∉ cs) : withoutCodes cs = cs := by
  induction cs with
  | nil => simp [withoutCodes, behindCode?]
  | cons c rest ih =>
    rw [withoutCodes]
    split
    · next hcode =>
      rw [behindCode?_of_no_escape h] at hcode
      cases hcode
    · dsimp only
      rw [ih fun hrest => h (List.mem_cons_of_mem c hrest)]

theorem line_of_no_escape {text : String} (h : '\x1b' ∉ text.toList) : line text = text ++ "\n" := by
  rw [line, withoutCodes_of_no_escape h, String.ofList_toList]

/-- Among visible characters and line ends nothing opens a terminal code. -/
theorem line_of_visible {text : String}
    (h : ∀ d ∈ text.toList, d = '\n' ∨ Json.IsVisible d) : line text = text ++ "\n" := by
  refine line_of_no_escape fun hmem => ?_
  rcases h _ hmem with heq | hvisible
  · cases heq
  · revert hvisible
    decide

theorem lines_cons (text : String) (rest : List String) :
    lines (text :: rest) = line text ++ lines rest := by
  refine String.toList_injective ?_
  simp [lines]

/-- Lines without line ends and terminal codes are what stands between the line ends. -/
theorem split_lines {texts : List String}
    (h : ∀ text ∈ texts, '\n' ∉ text.toList ∧ '\x1b' ∉ text.toList) :
    Text.split (· = '\n') (lines texts) = texts ++ [""] := by
  induction texts with
  | nil => rfl
  | cons text rest ih =>
    rw [List.forall_mem_cons] at h
    obtain ⟨⟨hnewline, hescape⟩, hrest⟩ := h
    have hpiece : ∀ c ∈ text.toList, decide (c = '\n') = false := by
      intro c hc
      refine decide_eq_false ?_
      rintro rfl
      exact hnewline hc
    -- the text holds no line end, so the first piece ends at the line end that was put behind it
    have htext : (lines (text :: rest)).toList = text.toList ++ '\n' :: (lines rest).toList := by
      rw [lines_cons, line_of_no_escape hescape]
      simp
    rw [Text.split, htext, Text.pieces_append_separator hpiece (decide_eq_true rfl),
      List.map_cons, String.ofList_toList]
    exact congrArg (text :: ·) (ih hrest)

/-! ### The listing -/

/-- The listing of some paths: an array of strings, or one path a line. -/
def listing (json : Bool) (paths : List String) : String :=
  if json then line (Json.ofStrings paths).toBlock else lines paths

/-- An array of strings is printed as it is written and read back. -/
theorem decode_listing (paths : List String) :
    Json.decode (listing true paths) = .ok (Json.ofStrings paths) := by
  rw [listing, if_pos rfl, line_of_visible (Json.visible_toBlock_ofStrings paths),
    Json.decode_toBlock_ofStrings]

def Start.resolving (start : Start) (world : World) (settings : Settings) (workspace : Path)
    (repoRoot : Option Path) (wantsOverlay : Bool) : Run Resolution :=
  resolve (start.worldOf world) settings.config (start.files.absolute workspace)
    (effectiveRepoRoot settings.folder (start.files.absolute workspace)
      (repoRoot.map start.files.absolute) (some settings.config)) wantsOverlay

/-- Resolving the workspace that some arguments name, under the settings of their run, comes to a
result; the flag tells whether they ask for an array. -/
inductive Resolves (world : World) (moment : Log.Moment) (arguments : List String) :
    Bool → Resolved → Prop where
  | intro {start : Start} {workspace : Path} {repoRoot : Option Path} {wantsOverlay json : Bool}
      {settings : Settings} {resolved : Resolved} (hstart : Start.Of world arguments start)
      (hcommand : start.command = .resolve workspace repoRoot wantsOverlay json)
      (hsettings : (start.settings world moment).outcome = .ok settings)
      (hresolved : (start.resolving world settings workspace repoRoot wantsOverlay).outcome =
        .ok (.resolved resolved)) :
      Resolves world moment arguments json resolved

/-- A command line that names no other command. -/
def ListsPaths (files : FileSystem) (arguments : List String) : Prop :=
  ∀ invocation, readInvocation files arguments = .ok invocation → invocation.command = .resolve

/-- A result whose standard output is empty, with an exit code other than 0. -/
def Result.ShowsNothing (result : Result) : Prop := result.exitCode ≠ 0 ∧ result.stdout = ""

section

variable {world : World} {moment : Log.Moment} {registered : Option Path}
  {arguments : List String} {json : Bool} {resolved : Resolved} {start : Start} {workspace : Path}
  {repoRoot : Option Path} {wantsOverlay : Bool} {settings : Settings}

theorem Halt.IsRefusal.showsNothing {halt : Halt} (h : halt.IsRefusal) {files : FileSystem}
    {log : List Event → String} :
    (Result.ofRun registered files log (halt.run world.wording arguments)).ShowsNothing := by
  cases halt with
  | info info => exact absurd h id
  | usage problem => exact ⟨Nat.succ_ne_zero _, rfl⟩
  | failed failure => exact ⟨Nat.succ_ne_zero _, rfl⟩

theorem Result.showsNothing_of_error {files : FileSystem} {log : List Event → String}
    {run : Run Output} {failure : Failure} (h : run.outcome = .error failure) :
    (Result.ofRun registered files log run).ShowsNothing := by
  rw [Result.ofRun_of_error h]
  exact ⟨Nat.succ_ne_zero _, rfl⟩

theorem Result.showsNothing_of_complaint {files : FileSystem} {log : List Event → String}
    {run : Run Output} {texts : List String} (h : run.outcome = .ok (complaint texts)) :
    (Result.ofRun registered files log run).ShowsNothing := by
  rw [Result.ofRun_of_ok h]
  exact ⟨Nat.succ_ne_zero _, rfl⟩

/-- The command that lists paths shows what resolving comes to. -/
theorem Start.outcome_carryOut_resolve
    (hcommand : start.command = .resolve workspace repoRoot wantsOverlay json)
    (hsettings : (start.settings world moment).outcome = .ok settings) :
    (start.carryOut world moment registered).2.outcome =
      (start.resolving world settings workspace repoRoot wantsOverlay).outcome.map
        (showResolution start.invocation.verbosity.quiet json) := by
  rw [Start.carryOut_of_ok hsettings, hcommand]
  exact (Run.outcome_andThen_of_ok hsettings _).trans (Run.outcome_andThen_done _ _)

/-- A run whose resolving comes to an answer leaves what is shown for the answer. -/
theorem Start.run_of_resolution {resolution : Resolution} (hstart : Start.Of world arguments start)
    (hcommand : start.command = .resolve workspace repoRoot wantsOverlay json)
    (hsettings : (start.settings world moment).outcome = .ok settings)
    (hresolution : (start.resolving world settings workspace repoRoot wantsOverlay).outcome =
      .ok resolution) :
    (run world moment registered arguments).exitCode =
        (showResolution start.invocation.verbosity.quiet json resolution).exitCode ∧
      (run world moment registered arguments).stdout =
        (showResolution start.invocation.verbosity.quiet json resolution).stdout := by
  have houtcome : (start.carryOut world moment registered).2.outcome =
      .ok (showResolution start.invocation.verbosity.quiet json resolution) := by
    rw [Start.outcome_carryOut_resolve hcommand hsettings, hresolution]
    rfl
  rw [run_of_start hstart, Start.result, Result.ofRun_of_ok houtcome]
  exact ⟨rfl, rfl⟩

theorem showResolution_resolved (quiet : Bool) :
    (showResolution quiet json (.resolved resolved)).exitCode = 0 ∧
      (showResolution quiet json (.resolved resolved)).stdout = listing json resolved.paths := by
  cases json <;> exact ⟨rfl, rfl⟩

theorem Resolves.shows (h : Resolves world moment arguments json resolved) :
    (run world moment registered arguments).exitCode = 0 ∧
      (run world moment registered arguments).stdout = listing json resolved.paths := by
  obtain ⟨hstart, hcommand, hsettings, hresolved⟩ := h
  obtain ⟨hexit, hstdout⟩ := Start.run_of_resolution hstart hcommand hsettings hresolved
  rw [hexit, hstdout]
  exact showResolution_resolved _

/-- A run whose settings cannot be loaded shows nothing, whatever its command. -/
theorem Start.showsNothing_of_unsettled {failure : Failure}
    (h : (start.settings world moment).outcome = .error failure) :
    (start.result world moment registered).ShowsNothing := by
  rw [Start.result, Start.carryOut_of_unsettled h]
  cases failure with
  | config fault => exact Result.showsNothing_of_complaint rfl
  | _ => exact Result.showsNothing_of_error rfl

/-- A command that gets its start and comes to no result shows nothing. -/
theorem Start.showsNothing (hstart : Start.Of world arguments start)
    (hcommand : start.command = .resolve workspace repoRoot wantsOverlay json)
    (hno : ∀ json resolved, ¬ Resolves world moment arguments json resolved) :
    (start.result world moment registered).ShowsNothing := by
  cases hsettings : (start.settings world moment).outcome with
  | error failure => exact Start.showsNothing_of_unsettled hsettings
  | ok settings =>
    -- from here on the run is decided by how resolving ends
    have houtcome : (start.carryOut world moment registered).2.outcome = _ :=
      Start.outcome_carryOut_resolve hcommand hsettings
    cases hresolution :
        (start.resolving world settings workspace repoRoot wantsOverlay).outcome with
    | error failure =>
      rw [hresolution] at houtcome
      exact Result.showsNothing_of_error houtcome
    | ok resolution =>
      rw [hresolution] at houtcome
      cases resolution with
      | resolved resolved =>
        exact absurd (.intro hstart hcommand hsettings hresolution) (hno json resolved)
      | failed => exact Result.showsNothing_of_complaint houtcome

/-- A run that comes to no result shows nothing, wherever it is stopped. -/
theorem showsNothing_of_not_resolves (hinfo : AsksNoInfo arguments)
    (hlists : ListsPaths world.files arguments)
    (hno : ∀ json resolved, ¬ Resolves world moment arguments json resolved) :
    (run world moment registered arguments).ShowsNothing := by
  -- only a run that has its start can get as far as a result; the others are stopped before
  have hends := run_ends world moment registered arguments
  generalize run world moment registered arguments = result at hends ⊢
  cases hends with
  | unread hrefused => exact (hinfo.isRefusal_of_readInvocation hrefused).showsNothing
  | unlogged => exact ⟨Nat.succ_ne_zero _, rfl⟩
  | halted hinvoked hrefused =>
    have harguments := hinfo.of_readInvocation hinvoked
    rw [hlists _ hinvoked] at hrefused
    exact (harguments.isRefusal_of_readCommand hrefused).showsNothing
  | started hstart =>
    have hread := hstart.read
    rw [hlists _ hstart.invoked] at hread
    obtain ⟨workspace, repoRoot, wantsOverlay, json, hcommand⟩ :=
      exists_resolve_of_readCommand hread
    exact Start.showsNothing hstart hcommand hno

end

/-- The listing loses nothing. The command that lists paths exits with 0 exactly if resolving comes
to a result; otherwise its standard output is empty. The output is then made of the paths of the
result and the form asked for alone, and gives the paths back: as the strings of an array, for
whatever strings, or as what stands between the line ends, for paths without line ends and escapes. -/
theorem listing_gives_paths_back (world : World) (moment : Log.Moment) (registered : Option Path)
    {arguments : List String} (hinfo : AsksNoInfo arguments)
    (hlists : ListsPaths world.files arguments) :
    ((run world moment registered arguments).exitCode = 0 ↔
      ∃ json resolved, Resolves world moment arguments json resolved) ∧
    ((run world moment registered arguments).exitCode ≠ 0 →
      (run world moment registered arguments).stdout = "") ∧
    ∀ json resolved, Resolves world moment arguments json resolved →
      (run world moment registered arguments).stdout = listing json resolved.paths ∧
      (json = true → Json.decode (run world moment registered arguments).stdout =
        .ok (Json.ofStrings resolved.paths)) ∧
      (json = false →
        (∀ path ∈ resolved.paths, '\n' ∉ path.toList ∧ '\x1b' ∉ path.toList) →
        Text.split (· = '\n') (run world moment registered arguments).stdout =
          resolved.paths ++ [""]) := by
  have hcases : (∃ json resolved, Resolves world moment arguments json resolved) ∨
      (run world moment registered arguments).ShowsNothing := by
    by_cases hresult : ∃ json resolved, Resolves world moment arguments json resolved
    · exact Or.inl hresult
    · refine Or.inr (showsNothing_of_not_resolves hinfo hlists ?_)
      exact fun json resolved h => hresult ⟨json, resolved, h⟩
  refine ⟨⟨?_, ?_⟩, ?_, ?_⟩
  · intro hexit
    rcases hcases with hresult | hnothing
    · exact hresult
    · exact absurd hexit hnothing.1
  · rintro ⟨json, resolved, h⟩
    exact h.shows.1
  · intro hexit
    rcases hcases with ⟨json, resolved, h⟩ | hnothing
    · exact absurd h.shows.1 hexit
    · exact hnothing.2
  · intro json resolved h
    rw [h.shows.2]
    refine ⟨rfl, ?_, ?_⟩
    · rintro rfl
      exact decode_listing resolved.paths
    · rintro rfl hpaths
      exact split_lines hpaths

namespace Alone

def arguments (json : Bool) : List String :=
  ["resolve", "--no-overlay", if json then "--json" else "--", "/"]

def start (json : Bool) : Start where
  invocation := ⟨{}, none, .resolve, (arguments json).tail⟩
  logging := plainLogging
  files := Sample.world.files
  command := .resolve Sample.workspace none false json

theorem start_of_arguments (json : Bool) :
    Start.Of Sample.world (arguments json) (start json) where
  invoked := by
    have hread : readGlobal (arguments json) = .ok ({}, arguments json) := by cases json <;> rfl
    rw [readInvocation_of_no_info hread rfl]
    rfl
  logged := setup_start_plain Sample.world.files
  read := by
    have hread : readCommandOptions ["resolve"] [repoRootSpec, noOverlaySpec, jsonSpec] true
        (arguments json).tail = .ok ({ overlay := false, json }, ["/"]) := by
      cases json <;> rfl
    show readCommand Sample.world.files .resolve (arguments json).tail = _
    rw [readCommand_resolve_eq, hread]
    show readFolders Sample.world.files _ ["/"] >>= _ = _
    rw [readFolders_root Sample.world.files rfl]
    rfl

theorem listsPaths (json : Bool) : ListsPaths Sample.world.files (arguments json) := by
  intro invocation hread
  rw [(start_of_arguments json).invoked] at hread
  cases hread
  rfl

theorem asksNoInfo (json : Bool) : AsksNoInfo (arguments json) := by
  cases json <;> exact ⟨by decide, by decide⟩

/-- There is no settings file, so the settings have their defaults. -/
theorem settings_eq (json : Bool) :
    ((start json).settings Sample.world epoch).outcome = .ok ⟨{}, none, none⟩ := by
  have hfind : Config.find Sample.world.files Sample.workspace = .ok none := by cbv
  have hpath : settingsPath (start json).files (start json).invocation.configPath
      ((start json).command.start (start json).files) = .ok none := hfind
  rw [Start.settings, loadSettings_eq, hpath]
  rfl

theorem resolves (json : Bool) : Resolves Sample.world epoch (arguments json) json
    ⟨Sample.workspace, Sample.workspace, ["/a"], 1, none, 0, []⟩ :=
  .intro (start_of_arguments json) rfl (settings_eq json)
    (outcome_resolve_without_overlay (Sample.outcome_workspace (by decide)) rfl)

end Alone

/-- A workspace with one package, as an array and as lines. -/
theorem sample_listing_gives_paths_back :
    ((run Sample.world epoch none (Alone.arguments true)).exitCode = 0 ∧
      Json.decode (run Sample.world epoch none (Alone.arguments true)).stdout =
        .ok (Json.ofStrings ["/a"])) ∧
    ((run Sample.world epoch none (Alone.arguments false)).exitCode = 0 ∧
      Text.split (· = '\n') (run Sample.world epoch none (Alone.arguments false)).stdout =
        ["/a", ""]) := by
  have harray := listing_gives_paths_back Sample.world epoch none
    (Alone.asksNoInfo true) (Alone.listsPaths true)
  have hlines := listing_gives_paths_back Sample.world epoch none
    (Alone.asksNoInfo false) (Alone.listsPaths false)
  constructor
  · exact ⟨harray.1.mpr ⟨_, _, Alone.resolves true⟩,
      (harray.2.2 _ _ (Alone.resolves true)).2.1 rfl⟩
  · exact ⟨hlines.1.mpr ⟨_, _, Alone.resolves false⟩,
      (hlines.2.2 _ _ (Alone.resolves false)).2.2 rfl (by decide)⟩

end ProductionClosure.CommandLine

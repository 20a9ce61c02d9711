import ProductionClosure.Proofs.CommandLine.Queries
import ProductionClosure.Proofs.Resolution.Environment

/-!
Two runs that differ in how talkative they are. Flags and variables for that decide which log lines
are shown, and nothing else: command lines that agree but for such flags are read as the same command,
and without a log file the command is carried out on the same disk, so it comes to the same answer.
-/

namespace ProductionClosure.CommandLine

/-! ### Reading from other settings -/

section

variable {σ τ : Type} {specs : List (OptionSpec σ)} {f : σ → τ}

/-- An effect that leaves alike, as far as something of them counts, settings that were alike. -/
def Effect.Respects (f : σ → τ) : Effect σ → Prop
  | .flag set => ∀ settings other, f settings = f other → f (set settings) = f (set other)
  | .value set =>
    ∀ value settings other, f settings = f other → f (set value settings) = f (set value other)

def Asked.Respects (f : σ → τ) : Asked σ → Prop
  | .change set => ∀ settings other, f settings = f other → f (set settings) = f (set other)
  | .value _ set =>
    ∀ value settings other, f settings = f other → f (set value settings) = f (set value other)

theorem respects_of_effectOf? (hspecs : ∀ spec ∈ specs, spec.effect.Respects f) {name : String}
    {effect : Effect σ} (h : effectOf? specs name = some effect) : effect.Respects f := by
  obtain ⟨spec, hfind, rfl⟩ := Option.map_eq_some_iff.mp h
  exact hspecs spec (List.mem_of_find?_eq_some hfind)

section

variable (hspecs : ∀ spec ∈ specs, spec.effect.Respects f)
include hspecs

theorem respects_readCluster {set : σ → σ} {cs : List Char} {asked : Asked σ}
    (hset : ∀ settings other, f settings = f other → f (set settings) = f (set other))
    (h : readCluster specs set cs = .ok asked) : asked.Respects f := by
  induction cs generalizing set with
  | nil =>
    cases h
    exact hset
  | cons c rest ih =>
    rw [readCluster] at h
    split at h
    · cases h
    · next change heffect =>
      have hchange := respects_of_effectOf? hspecs heffect
      exact ih (fun settings other hf => hchange _ _ (hset settings other hf)) h
    · next change heffect =>
      have hchange := respects_of_effectOf? hspecs heffect
      split at h
      · cases h
        exact fun value settings other hf => hchange value _ _ (hset settings other hf)
      · cases h
        exact fun settings other hf => hchange _ _ _ (hset settings other hf)

theorem respects_readOption {cs : List Char} {asked : Asked σ}
    (h : readOption specs cs = .ok asked) : asked.Respects f := by
  unfold readOption at h
  split at h
  · dsimp only at h
    split at h
    · cases h
    · next change heffect _ =>
      cases h
      exact respects_of_effectOf? hspecs heffect
    · cases h
    · next change heffect _ =>
      cases h
      exact respects_of_effectOf? hspecs heffect
    · next change _ value heffect _ =>
      cases h
      exact fun settings other hf => respects_of_effectOf? hspecs heffect _ settings other hf
  · exact respects_readCluster hspecs (fun _ _ hf => hf) h

/-- From settings that are alike the same arguments lead to settings that are alike. -/
theorem readArguments_respects {anywhere : Bool} {settings other : σ} (hf : f settings = f other)
    (arguments : List String) :
    (readArguments specs anywhere settings arguments).map (fun read => (f read.1, read.2)) =
      (readArguments specs anywhere other arguments).map fun read => (f read.1, read.2) := by
  fun_induction readArguments specs anywhere settings arguments generalizing other with
  | case1 => simp only [readArguments, Except.map, hf]
  | case2 => simp only [readArguments, if_true, Except.map, hf]
  | case3 settings argument rest hdash hoption problem hread =>
    simp only [readArguments, hdash, hoption, hread, if_true, if_false, Except.map]
  | case4 settings argument rest hdash hoption set hread ih =>
    have hset := respects_readOption hspecs hread _ _ hf
    simp only [readArguments, hdash, hoption, hread, if_true, if_false]
    exact ih hset
  | case5 settings argument hdash hoption name set hread =>
    simp only [readArguments, hdash, hoption, hread, if_true, if_false, Except.map]
  | case6 settings argument hdash hoption name set hread value rest ih =>
    have hset := respects_readOption hspecs hread value _ _ hf
    simp only [readArguments, hdash, hoption, hread, if_true, if_false]
    exact ih hset
  | case7 settings argument rest hdash hoption hanywhere problem hmore ih =>
    have hrest := ih hf
    rw [hmore] at hrest
    cases hother : readArguments specs anywhere other rest with
    | ok read =>
      rw [hother] at hrest
      cases hrest
    | error found =>
      rw [hother] at hrest
      cases hrest
      simp only [readArguments, hdash, hoption, hanywhere, if_true, if_false, Bool.false_eq_true,
        hanywhere ▸ hother, Except.map]
  | case8 settings argument rest hdash hoption hanywhere others kept hmore ih =>
    have hrest := ih hf
    rw [hmore] at hrest
    cases hother : readArguments specs anywhere other rest with
    | error problem =>
      rw [hother] at hrest
      cases hrest
    | ok read =>
      rw [hother] at hrest
      simp only [Except.map, Except.ok.injEq, Prod.mk.injEq] at hrest
      simp only [readArguments, hdash, hoption, hanywhere, if_true, if_false, Bool.false_eq_true,
        hanywhere ▸ hother, Except.map, hrest.1, hrest.2]
  | case9 settings argument rest hdash hoption hanywhere =>
    simp only [readArguments, hdash, hoption, hanywhere, if_false, Bool.false_eq_true, Except.map,
      hf]

end

/-- Arguments that are options as a whole, values included: what stands behind them is read as if
they were not there, from the settings that they lead to. -/
inductive WholeOptions (specs : List (OptionSpec σ)) : List String → Prop where
  | nil : WholeOptions specs []
  | change {argument : String} {set : σ → σ} {others : List String} (hdash : argument ≠ "--")
      (hoption : isOption argument.toList = true)
      (hread : readOption specs argument.toList = .ok (.change set))
      (h : WholeOptions specs others) : WholeOptions specs (argument :: others)
  | value {argument name value : String} {set : String → σ → σ} {others : List String}
      (hdash : argument ≠ "--") (hoption : isOption argument.toList = true)
      (hread : readOption specs argument.toList = .ok (.value name set))
      (h : WholeOptions specs others) : WholeOptions specs (argument :: value :: others)

example : WholeOptions globalSpecs ["--config", "settings", "-q"] :=
  .value (by decide) (by decide) rfl (.change (by decide) (by decide) rfl .nil)

theorem WholeOptions.exists_settings {front : List String} (h : WholeOptions specs front)
    (anywhere : Bool) (settings : σ) :
    ∃ reached, ∀ behind, readArguments specs anywhere settings (front ++ behind) =
      readArguments specs anywhere reached behind := by
  induction h generalizing settings with
  | nil => exact ⟨settings, fun _ => rfl⟩
  | @change argument set others hdash hoption hread _ ih =>
    obtain ⟨reached, hreached⟩ := ih (set settings)
    refine ⟨reached, fun behind => ?_⟩
    rw [← hreached behind, List.cons_append, readArguments, if_neg hdash, if_pos hoption, hread]
  | @value argument name value set others hdash hoption hread _ ih =>
    obtain ⟨reached, hreached⟩ := ih (set value settings)
    refine ⟨reached, fun behind => ?_⟩
    rw [← hreached behind, List.cons_append, List.cons_append, readArguments, if_neg hdash,
      if_pos hoption, hread]

end

/-! ### Command lines that differ in flags -/

def verbosityFlags : List String := ["--verbose", "-v", "--quiet", "-q", "--debug"]

/-- The options in front of the command, whatever they say on verbosity. -/
def GlobalOptions.plain (options : GlobalOptions) : GlobalOptions :=
  { options with verbosity := {} }

/-- A command line up to the name of the command, whatever it says on verbosity. -/
def Invocation.plain (invocation : Invocation) : Invocation :=
  { invocation with verbosity := {} }

/-- What stands in front of a command and behind it, whatever is said on verbosity. -/
def readPlain (arguments : List String) : Except UsageProblem (GlobalOptions × List String) :=
  (readGlobal arguments).map fun read => (read.1.plain, read.2)

/-- Two command lines that differ in the flags for verbosity alone, however these are written. -/
def SameButVerbosity (arguments other : List String) : Prop := readPlain arguments = readPlain other

theorem respects_globalSpecs :
    ∀ spec ∈ globalSpecs, spec.effect.Respects GlobalOptions.plain := by
  simp +contextual [globalSpecs, Effect.Respects, GlobalOptions.plain]

/-- A flag for verbosity may be put wherever an option can stand. -/
theorem sameButVerbosity_of_flag {front behind : List String} {flag : String}
    (hfront : WholeOptions globalSpecs front) (hflag : flag ∈ verbosityFlags) :
    SameButVerbosity (front ++ flag :: behind) (front ++ behind) := by
  obtain ⟨reached, hreached⟩ := hfront.exists_settings false {}
  have hread : ∃ verbosity, readArguments globalSpecs false reached (flag :: behind) =
      readArguments globalSpecs false { reached with verbosity } behind := by
    simp only [verbosityFlags, List.mem_cons, List.not_mem_nil, or_false] at hflag
    rcases hflag with rfl | rfl | rfl | rfl | rfl <;> exact ⟨_, rfl⟩
  obtain ⟨verbosity, hverbosity⟩ := hread
  have hplain : { reached with verbosity }.plain = reached.plain := rfl
  rw [SameButVerbosity, readPlain, readPlain, readGlobal, readGlobal, hreached, hreached, hverbosity]
  exact readArguments_respects respects_globalSpecs hplain behind

/-! ### Up to the name of the command -/

def invocationFrom (files : FileSystem) (read : GlobalOptions × List String) :
    Except Halt Invocation :=
  match read.1.info with
  | some info => .error (.info info)
  | none => configOf files read.1 >>= fun configPath => invocationOf read.1.verbosity configPath read.2

theorem readInvocation_eq (files : FileSystem) (arguments : List String) :
    readInvocation files arguments =
      (readGlobal arguments).mapError .usage >>= invocationFrom files := by
  cases hread : readGlobal arguments with
  | error problem =>
    rw [readInvocation, hread]
    rfl
  | ok read =>
    obtain ⟨⟨verbosity, configPath, info⟩, rest⟩ := read
    cases info with
    | none => exact readInvocation_of_no_info hread rfl
    | some info =>
      rw [readInvocation, hread]
      rfl

theorem map_plain_invocationOf (verbosity : Log.Verbosity) (configPath : Option Path)
    (rest : List String) :
    (invocationOf verbosity configPath rest).map Invocation.plain =
      invocationOf {} configPath rest := by
  cases rest with
  | nil => rfl
  | cons name arguments =>
    unfold invocationOf
    dsimp only
    cases CommandName.named.lookup name <;> rfl

/-- What a command line says on verbosity is handed on to the invocation and looked at by nothing
else. -/
theorem map_plain_invocationFrom (files : FileSystem) (read : GlobalOptions × List String) :
    (invocationFrom files read).map Invocation.plain =
      invocationFrom files (read.1.plain, read.2) := by
  obtain ⟨⟨verbosity, configPath, info⟩, rest⟩ := read
  cases info with
  | some info => rfl
  | none =>
    show (configOf files ⟨verbosity, configPath, none⟩ >>=
        fun path => invocationOf verbosity path rest).map _ =
      configOf files ⟨verbosity, configPath, none⟩ >>= fun path => invocationOf {} path rest
    cases configOf files ⟨verbosity, configPath, none⟩ with
    | error halt => rfl
    | ok path => exact map_plain_invocationOf verbosity path rest

theorem map_plain_readInvocation (files : FileSystem) (arguments : List String) :
    (readInvocation files arguments).map Invocation.plain =
      (readPlain arguments).mapError .usage >>= invocationFrom files := by
  rw [readInvocation_eq, readPlain]
  cases readGlobal arguments with
  | error problem => rfl
  | ok read => exact map_plain_invocationFrom files read

/-- Command lines that differ in flags for verbosity are refused alike. -/
theorem SameButVerbosity.readInvocation_of_error {arguments other : List String}
    (h : SameButVerbosity arguments other) {files : FileSystem} {halt : Halt}
    (hread : readInvocation files arguments = .error halt) :
    readInvocation files other = .error halt := by
  have hmap := map_plain_readInvocation files arguments
  rw [h, ← map_plain_readInvocation, hread] at hmap
  cases hother : readInvocation files other with
  | ok invocation =>
    rw [hother] at hmap
    cases hmap
  | error found =>
    rw [hother] at hmap
    cases hmap
    rfl

/-- They come to invocations that differ in verbosity alone. -/
theorem SameButVerbosity.readInvocation_of_ok {arguments other : List String}
    (h : SameButVerbosity arguments other) {files : FileSystem} {invocation : Invocation}
    (hread : readInvocation files arguments = .ok invocation) :
    ∃ verbosity, readInvocation files other = .ok { invocation with verbosity } := by
  have hmap := map_plain_readInvocation files arguments
  rw [h, ← map_plain_readInvocation, hread] at hmap
  cases hother : readInvocation files other with
  | error halt =>
    rw [hother] at hmap
    cases hmap
  | ok found =>
    rw [hother] at hmap
    obtain ⟨verbosity, configPath, command, behind⟩ := found
    obtain ⟨_, _, _, _⟩ := invocation
    cases hmap
    exact ⟨verbosity, rfl⟩

/-! ### Answers -/

def Output.answer (output : Output) : Nat × String := (output.exitCode, output.stdout)

/-- Two results with the same answer, whose processes are related one by one. -/
structure Result.SameAnswer (related : Call → Call → Prop) (result other : Result) : Prop where
  stdout : result.stdout = other.stdout
  exitCode : result.exitCode = other.exitCode
  failure : result.failure = other.failure
  calls : List.Forall₂ related result.calls other.calls

section

variable {related : Call → Call → Prop} {registered registered' : Option Path}
  {files files' : FileSystem} {log log' : List Event → String} {run run' : Run Output}

theorem Result.sameAnswer_ofRun
    (houtcome : run.outcome.map Output.answer = run'.outcome.map Output.answer)
    (hcalls : List.Forall₂ related run.calls run'.calls) :
    (Result.ofRun registered files log run).SameAnswer related
      (Result.ofRun registered' files' log' run') := by
  cases h : run.outcome with
  | error failure =>
    cases h' : run'.outcome with
    | ok output =>
      rw [h, h'] at houtcome
      cases houtcome
    | error other =>
      rw [h, h'] at houtcome
      cases houtcome
      rw [Result.ofRun_of_error h, Result.ofRun_of_error h']
      exact ⟨rfl, rfl, rfl, hcalls⟩
  | ok output =>
    cases h' : run'.outcome with
    | error failure =>
      rw [h, h'] at houtcome
      cases houtcome
    | ok other =>
      rw [h, h'] at houtcome
      have hanswer : output.answer = other.answer := Except.ok.inj houtcome
      rw [Result.ofRun_of_ok h, Result.ofRun_of_ok h']
      exact ⟨congrArg Prod.snd hanswer, congrArg Prod.fst hanswer, rfl, hcalls⟩

end

/-- A command line that asks for no command is answered alike wherever it is read. -/
theorem Halt.sameAnswer_ofRun {related : Call → Call → Prop} (halt : Halt) (wording : Wording)
    (arguments arguments' : List String) (registered registered' : Option Path)
    (files files' : FileSystem) (log log' : List Event → String) :
    (Result.ofRun registered files log (halt.run wording arguments)).SameAnswer related
      (Result.ofRun registered' files' log' (halt.run wording arguments')) := by
  refine Result.sameAnswer_ofRun ?_ ?_
  · cases halt with
    | usage | failed => rfl
    | info info => cases info <;> rfl
  · rw [halt.calls_run, halt.calls_run]
    exact .nil

/-- Warnings alone are left out of a quiet answer. -/
theorem answer_showResolution (quiet other json : Bool) (resolution : Resolution) :
    (showResolution quiet json resolution).answer =
      (showResolution other json resolution).answer := by
  cases resolution with
  | failed => rfl
  | resolved result => cases json <;> rfl

section

variable {names : List String} {world other : World} {moment moment' : Log.Moment}
  {registered registered' : Option Path} {arguments arguments' : List String}
  {start start' : Start} {workspace : Path} {repoRoot : Option Path} {wantsOverlay json : Bool}

/-- Two starts of the command that lists paths, in worlds that differ in some variables, lead to the
same answer. -/
theorem Start.sameAnswer (hworlds : world.AgreesBut names other)
    (hsettings : start'.settings other moment' = start.settings world moment)
    (hfiles : start'.files = start.files)
    (hcommand : start.command = .resolve workspace repoRoot wantsOverlay json)
    (hcommand' : start'.command = .resolve workspace repoRoot wantsOverlay json) :
    (start.result world moment registered).SameAnswer (Call.AgreesBut names)
      (start'.result other moment' registered') := by
  cases houtcome : (start.settings world moment).outcome with
  | error failure =>
    -- nothing is carried out, so the two runs are one and the same
    rw [Start.result, Start.result, Start.carryOut_of_unsettled houtcome,
      Start.carryOut_of_unsettled (hsettings ▸ houtcome), hsettings]
    refine Result.sameAnswer_ofRun rfl ?_
    rw [Start.calls_settings]
    exact .nil
  | ok settings =>
    have hresolving : (start.resolving world settings workspace repoRoot wantsOverlay).Alike
        (Call.AgreesBut names)
        (start'.resolving other settings workspace repoRoot wantsOverlay) := by
      rw [Start.resolving, Start.resolving, hfiles]
      refine World.AgreesBut.resolve ?_ _ _ _ _
      exact ⟨hfiles.symm, hworlds.tools, hworlds.environment, hworlds.wording⟩
    refine Result.sameAnswer_ofRun ?_ ?_
    · rw [Start.outcome_carryOut_resolve hcommand houtcome,
        Start.outcome_carryOut_resolve hcommand' (hsettings ▸ houtcome), hresolving.outcome]
      cases (start'.resolving other settings workspace repoRoot wantsOverlay).outcome with
      | error failure => rfl
      | ok resolution => exact congrArg Except.ok (answer_showResolution _ _ json resolution)
    · rw [Start.calls_carryOut_resolve hcommand houtcome,
        Start.calls_carryOut_resolve hcommand' (hsettings ▸ houtcome)]
      exact hresolving.calls

end

def levelVariables : List String := ["PRODEPS_LOG_LEVEL", "PRODEPS_LOG_FILE_LEVEL"]

/-- Logging does not change the answer. A flag for verbosity may stand wherever an option can, and
two command lines that list paths and differ in such flags alone, in worlds that differ in the
variables for verbosity alone, come to the same standard output, the same exit code and the same
processes, each of which is handed the variables of its own world, as long as no log file is
written. -/
theorem verbosity_changes_no_answer :
    (∀ front behind flag, WholeOptions globalSpecs front → flag ∈ verbosityFlags →
      SameButVerbosity (front ++ flag :: behind) (front ++ behind)) ∧
    ∀ world other moment moment' registered registered' arguments arguments',
      World.AgreesBut levelVariables world other →
      world.environment.value? "PRODEPS_LOG_FILE" = none →
      SameButVerbosity arguments arguments' → ListsPaths world.files arguments →
        (run world moment registered arguments).SameAnswer (Call.AgreesBut levelVariables)
          (run other moment' registered' arguments') := by
  refine ⟨fun _ _ _ hfront hflag => sameButVerbosity_of_flag hfront hflag, ?_⟩
  intro world other moment moment' registered registered' arguments arguments' hworlds hfile hsame
    hlists
  have hfile' : other.environment.value? "PRODEPS_LOG_FILE" = none := by
    rw [← hworlds.environment.value?_eq (by decide), hfile]
  cases hread : readInvocation world.files arguments with
  | error halt =>
    have hread' := hsame.readInvocation_of_error hread
    rw [hworlds.files] at hread'
    simp only [run, hread, hread', hworlds.wording]
    exact halt.sameAnswer_ofRun _ _ _ _ _ _ _ _ _
  | ok invocation =>
    obtain ⟨verbosity, hread'⟩ := hsame.readInvocation_of_ok hread
    rw [hworlds.files] at hread'
    have hlogged : (Log.Setup.ofEnvironment invocation.verbosity world.environment).start
        world.files = .ok _ := setup_start_of_no_file hfile _
    have hlogged' : (Log.Setup.ofEnvironment verbosity other.environment).start
        other.files = .ok _ := setup_start_of_no_file hfile' _
    cases hcommand : readCommand world.files invocation.command invocation.arguments with
    | error halt =>
      have hcommand' := hcommand
      rw [hworlds.files] at hcommand'
      simp only [run, hread, hread', hlogged, hlogged', hcommand, hcommand', hworlds.wording]
      exact halt.sameAnswer_ofRun _ _ _ _ _ _ _ _ _
    | ok command =>
      have hcommand' := hcommand
      rw [hworlds.files] at hcommand'
      have hstart : Start.Of world arguments ⟨invocation, _, world.files, command⟩ :=
        ⟨hread, hlogged, hcommand⟩
      have hstart' : Start.Of other arguments'
          ⟨{ invocation with verbosity }, _, other.files, command⟩ :=
        ⟨hread', hlogged', hcommand'⟩
      rw [hlists _ hread] at hcommand
      obtain ⟨workspace, repoRoot, wantsOverlay, json, rfl⟩ :=
        exists_resolve_of_readCommand hcommand
      rw [run_of_start hstart, run_of_start hstart']
      refine Start.sameAnswer hworlds ?_ hworlds.files.symm rfl rfl
      rw [hstart.settings_of_no_log_file hfile, hstart'.settings_of_no_log_file hfile',
        hworlds.files, hworlds.wording]

namespace Overlaid

def loudWorld : World := { world with environment := [("PRODEPS_LOG_LEVEL", "WARNING")] }

theorem agreesBut_loudWorld : world.AgreesBut levelVariables loudWorld where
  files := rfl
  tools := rfl
  environment := by
    intro name hname
    have hne : name ≠ "PRODEPS_LOG_LEVEL" := fun heq => hname (heq ▸ List.mem_cons_self)
    simp [world, loudWorld, List.lookup_cons, beq_eq_false_iff_ne.mpr hne]
  wording := rfl

theorem listsPaths : ListsPaths world.files arguments := by
  intro invocation hread
  rw [start_of_arguments.invoked] at hread
  cases hread
  rfl

def loudStart : Start := { start with
  logging := { console := .console (Log.Setup.ofEnvironment {} loudWorld.environment).consoleLevel } }

theorem loudStart_of_arguments : Start.Of loudWorld arguments loudStart where
  invoked := start_of_arguments.invoked
  logged := setup_start_of_no_file rfl _
  read := start_of_arguments.read

theorem loudAttempts : Attempts loudWorld epoch arguments
    (loudStart.resolving loudWorld ⟨{}, none, none⟩ Sample.workspace none true) := by
  refine .intro loudStart_of_arguments rfl ?_
  rw [loudStart_of_arguments.settings_of_no_log_file rfl, ← settings_eq,
    start_of_arguments.settings_of_no_log_file rfl]
  rfl

end Overlaid

/-- A flag in front of the command, and a level in the variables, leave the answer as it was. -/
theorem loud_run_answers_alike :
    (run Overlaid.world epoch none Overlaid.arguments).SameAnswer (Call.AgreesBut levelVariables)
      (run Overlaid.loudWorld epoch none ("--debug" :: Overlaid.arguments)) := by
  obtain ⟨hflag, hanswer⟩ := verbosity_changes_no_answer
  refine hanswer _ _ _ _ _ _ _ _ Overlaid.agreesBut_loudWorld rfl ?_ Overlaid.listsPaths
  exact (hflag [] Overlaid.arguments "--debug" .nil (by decide)).symm

/-- The processes are not the same in every respect: they inherit the level. -/
theorem level_is_inherited :
    ¬ ∀ world other moment moment' registered registered' arguments arguments',
      World.AgreesBut levelVariables world other →
      world.environment.value? "PRODEPS_LOG_FILE" = none →
      SameButVerbosity arguments arguments' → ListsPaths world.files arguments →
        (run world moment registered arguments).calls =
          (run other moment' registered' arguments').calls := by
  intro hsameCalls
  have hcalls := hsameCalls Overlaid.world Overlaid.loudWorld epoch epoch none none _ _
    Overlaid.agreesBut_loudWorld rfl rfl Overlaid.listsPaths
  rw [Overlaid.attempts.calls_run, Overlaid.loudAttempts.calls_run] at hcalls
  obtain ⟨folders, hfolders, hasked⟩ :=
    exists_queried Overlaid.world {} Sample.workspace Sample.workspace true
  obtain ⟨others, -, hothers⟩ := exists_queried (Overlaid.loudStart.worldOf Overlaid.loudWorld) {}
    (Overlaid.loudStart.files.absolute Sample.workspace)
    (Overlaid.loudStart.root ⟨{}, none, none⟩ Sample.workspace none) true
  rw [Start.resolving, ← Start.root, hothers, hasked,
    hfolders.eq_pair_iff.mpr Overlaid.overlayQueried] at hcalls
  cases others with
  | nil => cases hcalls
  | cons other rest =>
    have hhead := congrArg Call.environment (List.cons.inj hcalls).1
    simp only [treeQuery, Option.some.injEq] at hhead
    revert hhead
    decide

end ProductionClosure.CommandLine

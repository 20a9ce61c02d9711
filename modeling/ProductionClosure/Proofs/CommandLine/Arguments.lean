import ProductionClosure.CommandLine.Arguments
import ProductionClosure.Proofs.FileSystem.Lookup

/-!
What a command line without `--help` and `--version` asks for. An option that tells about the program
has one long name and takes no value, so only an argument that is this name gives it; reading any
other argument keeps the settings as far as it is concerned.
-/

namespace ProductionClosure.CommandLine

variable {σ : Type} {P : σ → Prop} {specs : List (OptionSpec σ)} {long : List String}

def Effect.Keeps (P : σ → Prop) : Effect σ → Prop
  | .flag set => ∀ settings, P settings → P (set settings)
  | .value set => ∀ value settings, P settings → P (set value settings)

/-- An argument that keeps a property of the settings, whatever value comes with it. -/
def Asked.Keeps (P : σ → Prop) : Asked σ → Prop
  | .change set => ∀ settings, P settings → P (set settings)
  | .value _ set => ∀ value settings, P settings → P (set value settings)

/-- All options keep a property of the settings, but for some without a value that have long names
alone. -/
structure KeepsBut (P : σ → Prop) (long : List String) (specs : List (OptionSpec σ)) : Prop where
  keeps : ∀ spec ∈ specs, spec.effect.Keeps P ∨
    (∃ set, spec.effect = .flag set) ∧ ∀ name ∈ spec.names, name ∈ long
  long : ∀ name ∈ long, 2 < name.length

theorem KeepsBut.of_effectOf? (h : KeepsBut P long specs) {name : String} {effect : Effect σ}
    (heffect : effectOf? specs name = some effect) :
    effect.Keeps P ∨ (∃ set, effect = .flag set) ∧ name ∈ long := by
  obtain ⟨spec, hfind, rfl⟩ := Option.map_eq_some_iff.mp heffect
  have hname : name ∈ spec.names := by
    simpa using List.find?_some hfind
  rcases h.keeps spec (List.mem_of_find?_eq_some hfind) with hkeeps | ⟨hflag, hlong⟩
  · exact Or.inl hkeeps
  · exact Or.inr ⟨hflag, hlong name hname⟩

/-- The effect of an option with a value keeps the property. -/
theorem KeepsBut.of_value (h : KeepsBut P long specs) {name : String} {set : String → σ → σ}
    (heffect : effectOf? specs name = some (.value set)) :
    ∀ value settings, P settings → P (set value settings) := by
  rcases h.of_effectOf? heffect with hkeeps | ⟨⟨_, hflag⟩, -⟩
  · exact hkeeps
  · cases hflag

/-- The effect of a short option keeps the property. -/
theorem KeepsBut.of_short (h : KeepsBut P long specs) {c : Char} {effect : Effect σ}
    (heffect : effectOf? specs (String.ofList ['-', c]) = some effect) : effect.Keeps P := by
  rcases h.of_effectOf? heffect with hkeeps | ⟨-, hlong⟩
  · exact hkeeps
  · have hsize := h.long _ hlong
    rw [String.length_ofList] at hsize
    exact absurd hsize (Nat.lt_irrefl 2)

theorem KeepsBut.readCluster (h : KeepsBut P long specs) {set : σ → σ} {cs : List Char}
    {asked : Asked σ} (hset : ∀ settings, P settings → P (set settings))
    (hread : CommandLine.readCluster specs set cs = .ok asked) : asked.Keeps P := by
  induction cs generalizing set with
  | nil =>
    cases hread
    exact hset
  | cons c rest ih =>
    rw [CommandLine.readCluster] at hread
    split at hread
    · cases hread
    · next change heffect =>
      exact ih (fun settings hp => h.of_short heffect _ (hset settings hp)) hread
    · next change heffect =>
      have hkeeps := h.of_value heffect
      split at hread
      · cases hread
        exact fun value settings hp => hkeeps value _ (hset settings hp)
      · cases hread
        exact fun settings hp => hkeeps _ _ (hset settings hp)

/-- An argument keeps the property unless it is one of the long names. -/
theorem KeepsBut.readOption (h : KeepsBut P long specs) {argument : String} {asked : Asked σ}
    (hargument : argument ∉ long)
    (hread : CommandLine.readOption specs argument.toList = .ok asked) : asked.Keeps P := by
  unfold CommandLine.readOption at hread
  split at hread
  · dsimp only at hread
    split at hread
    · cases hread
    · next change heffect hrest =>
      cases hread
      -- nothing stands behind the name, so the argument is the name
      have hname : String.ofList (argument.toList.takeWhile (· ≠ '=')) = argument := by
        have hparts := List.takeWhile_append_dropWhile (p := (· ≠ '=')) (l := argument.toList)
        rw [hrest, List.append_nil] at hparts
        rw [hparts, String.ofList_toList]
      rw [hname] at heffect
      rcases h.of_effectOf? heffect with hkeeps | ⟨-, hlong⟩
      · exact hkeeps
      · exact absurd hlong hargument
    · cases hread
    · next change heffect _ =>
      cases hread
      exact h.of_value heffect
    · next change _ value heffect _ =>
      cases hread
      exact h.of_value heffect _
  · exact h.readCluster (fun _ hp => hp) hread

/-- What is left behind the options belongs to the arguments. -/
theorem readArguments_subset {anywhere : Bool} {settings settings' : σ}
    {arguments rest : List String}
    (h : readArguments specs anywhere settings arguments = .ok (settings', rest)) :
    rest ⊆ arguments := by
  fun_induction readArguments specs anywhere settings arguments generalizing rest with
  | case1 | case9 =>
    cases h
    exact List.Subset.refl _
  | case2 =>
    cases h
    exact List.subset_cons_self _ _
  | case3 | case5 | case7 => cases h
  | case4 settings argument more _ _ set _ ih => exact List.subset_cons_of_subset _ (ih h)
  | case6 settings argument _ _ name set _ value more ih =>
    exact List.subset_cons_of_subset _ (List.subset_cons_of_subset _ (ih h))
  | case8 settings argument more _ _ _ others kept hmore ih =>
    cases h
    exact List.cons_subset_cons _ (ih hmore)

/-- Arguments that are none of the long names keep the property. -/
theorem KeepsBut.readArguments (h : KeepsBut P long specs) {anywhere : Bool}
    {settings settings' : σ} {arguments rest : List String}
    (harguments : ∀ argument ∈ arguments, argument ∉ long)
    (hread : CommandLine.readArguments specs anywhere settings arguments = .ok (settings', rest))
    (hsettings : P settings) : P settings' := by
  fun_induction CommandLine.readArguments specs anywhere settings arguments generalizing rest with
  | case1 | case2 | case9 =>
    cases hread
    exact hsettings
  | case3 | case5 | case7 => cases hread
  | case4 settings argument more _ _ set hoption ih =>
    rw [List.forall_mem_cons] at harguments
    exact ih harguments.2 hread (h.readOption harguments.1 hoption _ hsettings)
  | case6 settings argument _ _ name set hoption value more ih =>
    simp only [List.forall_mem_cons] at harguments
    exact ih harguments.2.2 hread (h.readOption harguments.1 hoption _ _ hsettings)
  | case8 settings argument more _ _ _ others kept hmore ih =>
    cases hread
    rw [List.forall_mem_cons] at harguments
    exact ih harguments.2 hmore hsettings

/-! ### The options of the program -/

theorem keepsBut_globalSpecs :
    KeepsBut (fun options : GlobalOptions => options.info = none) ["--version", "--help"]
      globalSpecs where
  keeps := by
    simp [globalSpecs, Effect.Keeps]
  long := by decide

theorem keepsBut_commandSpecs {specs : List (OptionSpec CommandOptions)}
    (hspecs : ∀ spec ∈ specs, spec ∈ [repoRootSpec, noOverlaySpec, jsonSpec]) :
    KeepsBut (fun options : CommandOptions => options.help = false) ["--help"]
      (specs ++ [helpSpec]) where
  keeps := by
    have hkept : ∀ spec ∈ [repoRootSpec, noOverlaySpec, jsonSpec],
        spec.effect.Keeps fun options : CommandOptions => options.help = false := by
      simp [repoRootSpec, noOverlaySpec, jsonSpec, Effect.Keeps]
    intro spec hspec
    rcases List.mem_append.mp hspec with hspec | hspec
    · exact Or.inl (hkept spec (hspecs spec hspec))
    · rw [List.mem_singleton.mp hspec]
      exact Or.inr ⟨⟨_, rfl⟩, fun name hname => hname⟩
  long := by decide

def AsksNoInfo (arguments : List String) : Prop :=
  "--help" ∉ arguments ∧ "--version" ∉ arguments

theorem AsksNoInfo.of_subset {arguments rest : List String} (h : AsksNoInfo arguments)
    (hsubset : rest ⊆ arguments) : AsksNoInfo rest :=
  ⟨fun hrest => h.1 (hsubset hrest), fun hrest => h.2 (hsubset hrest)⟩

theorem AsksNoInfo.readGlobal {arguments rest : List String} {options : GlobalOptions}
    (h : AsksNoInfo arguments)
    (hread : CommandLine.readGlobal arguments = .ok (options, rest)) : options.info = none := by
  refine keepsBut_globalSpecs.readArguments ?_ hread rfl
  intro argument hargument hlong
  rcases List.mem_cons.mp hlong with rfl | hlong
  · exact h.2 hargument
  · rw [List.mem_singleton.mp hlong] at hargument
    exact h.1 hargument

/-- Why a command line comes to nothing: it cannot be understood, or the disk has no answer. -/
def Halt.IsRefusal : Halt → Prop
  | .info _ => False
  | .usage _ | .failed _ => True

theorem isRefusal_of_unknownCommand {info : List String → Except UsageProblem (Option Info)}
    {name : String} {rest : List String}
    (h : ∀ about, info (name :: rest) ≠ .ok (some about)) :
    (unknownCommand info name rest).IsRefusal := by
  unfold unknownCommand
  split
  · next about habout => exact h about habout
  · exact trivial

theorem isRefusal_of_configArgument {files : FileSystem} {path : String} {halt : Halt}
    (h : configArgument files path = .error halt) : halt.IsRefusal := by
  unfold configArgument at h
  split at h <;> cases h <;> exact trivial

theorem isRefusal_of_folderArgument {files : FileSystem} {path : String} {halt : Halt}
    (h : folderArgument files path = .error halt) : halt.IsRefusal := by
  unfold folderArgument at h
  split at h <;> cases h <;> exact trivial

/-! ### Up to the name of the command -/

def infoOf (arguments : List String) : Except UsageProblem (Option Info) :=
  (readGlobal arguments).map fun result => result.1.info

def configOf (files : FileSystem) (options : GlobalOptions) : Except Halt (Option Path) :=
  match options.configPath with
  | none => .ok none
  | some path => configArgument files path

def invocationOf (verbosity : Log.Verbosity) (configPath : Option Path) :
    List String → Except Halt Invocation
  | [] => .error (.usage .missingCommand)
  | name :: arguments =>
    match CommandName.named.lookup name with
    | some command => .ok ⟨verbosity, configPath, command, arguments⟩
    | none => .error (unknownCommand infoOf name arguments)

theorem readInvocation_of_no_info {files : FileSystem} {arguments rest : List String}
    {options : GlobalOptions} (hread : readGlobal arguments = .ok (options, rest))
    (hinfo : options.info = none) :
    readInvocation files arguments =
      configOf files options >>= fun configPath => invocationOf options.verbosity configPath rest := by
  obtain ⟨verbosity, configPath, info⟩ := options
  cases hinfo
  unfold readInvocation
  rw [hread]
  cases configPath <;> rfl

theorem AsksNoInfo.isRefusal_of_invocationOf {verbosity : Log.Verbosity}
    {configPath : Option Path} {rest : List String} {halt : Halt} (h : AsksNoInfo rest)
    (hread : invocationOf verbosity configPath rest = .error halt) : halt.IsRefusal := by
  unfold invocationOf at hread
  split at hread
  · cases hread
    exact trivial
  · next name arguments =>
    split at hread
    · cases hread
    · cases hread
      -- the options behind an unknown name are read once more, for what they ask about the program
      refine isRefusal_of_unknownCommand fun about habout => ?_
      unfold infoOf at habout
      cases hagain : CommandLine.readGlobal (name :: arguments) with
      | error problem =>
        rw [hagain] at habout
        cases habout
      | ok result =>
        obtain ⟨options, others⟩ := result
        rw [hagain] at habout
        have hinfo := h.readGlobal hagain
        simp [Except.map, hinfo] at habout

theorem AsksNoInfo.isRefusal_of_readInvocation {files : FileSystem} {arguments : List String}
    {halt : Halt} (h : AsksNoInfo arguments)
    (hread : readInvocation files arguments = .error halt) : halt.IsRefusal := by
  cases hglobal : CommandLine.readGlobal arguments with
  | error problem =>
    unfold readInvocation at hread
    rw [hglobal] at hread
    cases hread
    exact trivial
  | ok result =>
    obtain ⟨options, rest⟩ := result
    rw [readInvocation_of_no_info hglobal (h.readGlobal hglobal)] at hread
    rcases Outcome.bind_eq_error.mp hread with hconfig | ⟨configPath, -, hinvocation⟩
    · unfold configOf at hconfig
      split at hconfig
      · cases hconfig
      · exact isRefusal_of_configArgument hconfig
    · exact (h.of_subset (readArguments_subset hglobal)).isRefusal_of_invocationOf hinvocation

/-- What stands behind the name of the command asks for nothing about the program either. -/
theorem AsksNoInfo.of_readInvocation {files : FileSystem} {arguments : List String}
    {invocation : Invocation} (h : AsksNoInfo arguments)
    (hread : readInvocation files arguments = .ok invocation) : AsksNoInfo invocation.arguments := by
  cases hglobal : CommandLine.readGlobal arguments with
  | error problem =>
    unfold readInvocation at hread
    rw [hglobal] at hread
    cases hread
  | ok result =>
    obtain ⟨options, rest⟩ := result
    rw [readInvocation_of_no_info hglobal (h.readGlobal hglobal)] at hread
    obtain ⟨configPath, -, hinvocation⟩ := Outcome.bind_eq_ok.mp hread
    refine h.of_subset (List.Subset.trans ?_ (readArguments_subset hglobal))
    unfold invocationOf at hinvocation
    split at hinvocation
    · cases hinvocation
    · split at hinvocation
      · cases hinvocation
        exact List.subset_cons_self _ _
      · cases hinvocation

/-! ### The arguments of a command -/

section

variable {files : FileSystem} {arguments : List String} {halt : Halt}
  {specs : List (OptionSpec CommandOptions)}
  (hspecs : ∀ spec ∈ specs, spec ∈ [repoRootSpec, noOverlaySpec, jsonSpec])
include hspecs

theorem AsksNoInfo.isRefusal_of_readCommandOptions {command : List String} {anywhere : Bool}
    (h : AsksNoInfo arguments)
    (hread : readCommandOptions command specs anywhere arguments = .error halt) :
    halt.IsRefusal := by
  unfold readCommandOptions at hread
  rcases Outcome.bind_eq_error.mp hread with hoptions | ⟨⟨options, rest⟩, hoptions, hread⟩
  · obtain ⟨problem, -, rfl⟩ := Outcome.mapError_eq_error.mp hoptions
    exact trivial
  · have hkept : options.help = false := by
      refine (keepsBut_commandSpecs hspecs).readArguments ?_ (Outcome.mapError_eq_ok.mp hoptions) rfl
      intro argument hargument hlong
      rw [List.mem_singleton.mp hlong] at hargument
      exact h.1 hargument
    simp only [hkept] at hread
    cases hread

end

def repoRootOf (files : FileSystem) (options : CommandOptions) : Except Halt (Option Path) :=
  match options.repoRoot with
  | none => .ok none
  | some path => (folderArgument files path).map some

theorem readFolders_eq (files : FileSystem) (options : CommandOptions) (rest : List String) :
    readFolders files options rest =
      repoRootOf files options >>= fun repoRoot =>
        folderArgument files (rest.headD ".") >>= fun workspace =>
          if 1 < rest.length then .error (.usage (.extraArguments (rest.drop 1)))
          else .ok (workspace, repoRoot) := by
  obtain ⟨repoRoot, overlay, json, help⟩ := options
  cases repoRoot <;> rfl

theorem folderArgument_root (files : FileSystem) :
    folderArgument files "/" = .ok ⟨.root, []⟩ := by
  simp only [folderArgument, FileSystem.status_root]
  rfl

/-- The root is a workspace on every disk. -/
theorem readFolders_root (files : FileSystem) {options : CommandOptions}
    (h : options.repoRoot = none) :
    readFolders files options ["/"] = .ok (⟨.root, []⟩, none) := by
  rw [readFolders_eq, repoRootOf, h]
  show folderArgument files "/" >>= _ = _
  rw [folderArgument_root]
  rfl

theorem isRefusal_of_readFolders {files : FileSystem} {options : CommandOptions}
    {rest : List String} {halt : Halt} (hread : readFolders files options rest = .error halt) :
    halt.IsRefusal := by
  rw [readFolders_eq] at hread
  rcases Outcome.bind_eq_error.mp hread with hroot | ⟨repoRoot, -, hread⟩
  · unfold repoRootOf at hroot
    split at hroot
    · cases hroot
    · next path _ =>
      cases hfolder : folderArgument files path with
      | ok folder =>
        rw [hfolder] at hroot
        cases hroot
      | error refused =>
        rw [hfolder] at hroot
        cases hroot
        exact isRefusal_of_folderArgument hfolder
  · rcases Outcome.bind_eq_error.mp hread with hworkspace | ⟨workspace, -, hread⟩
    · exact isRefusal_of_folderArgument hworkspace
    · split at hread
      · cases hread
        exact trivial
      · cases hread

theorem readCommand_resolve_eq (files : FileSystem) (arguments : List String) :
    readCommand files .resolve arguments =
      readCommandOptions ["resolve"] [repoRootSpec, noOverlaySpec, jsonSpec] true arguments >>=
        fun read => readFolders files read.1 read.2 >>= fun folders =>
          .ok (.resolve folders.1 folders.2 read.1.overlay read.1.json) := rfl

/-- The paths of the root can be listed on every disk. -/
theorem readCommand_resolve_root (files : FileSystem) :
    readCommand files .resolve ["/"] = .ok (.resolve ⟨.root, []⟩ none true false) := by
  rw [readCommand_resolve_eq]
  show readFolders files {} ["/"] >>= _ = _
  rw [readFolders_root files rfl]
  rfl

/-- The command that lists paths is refused or gets its arguments. -/
theorem AsksNoInfo.isRefusal_of_readCommand {files : FileSystem} {arguments : List String}
    {halt : Halt} (h : AsksNoInfo arguments)
    (hread : readCommand files .resolve arguments = .error halt) : halt.IsRefusal := by
  rw [readCommand_resolve_eq] at hread
  rcases Outcome.bind_eq_error.mp hread with hoptions | ⟨⟨options, rest⟩, -, hread⟩
  · exact h.isRefusal_of_readCommandOptions (fun _ hspec => hspec) hoptions
  · rcases Outcome.bind_eq_error.mp hread with hfolders | ⟨folders, -, hdone⟩
    · exact isRefusal_of_readFolders hfolders
    · cases hdone

/-- What is read behind the name of the command that lists paths is that command. -/
theorem exists_resolve_of_readCommand {files : FileSystem} {arguments : List String}
    {command : Command} (hread : readCommand files .resolve arguments = .ok command) :
    ∃ workspace repoRoot overlay json, command = .resolve workspace repoRoot overlay json := by
  rw [readCommand_resolve_eq] at hread
  obtain ⟨read, -, hread⟩ := Outcome.bind_eq_ok.mp hread
  obtain ⟨folders, -, hdone⟩ := Outcome.bind_eq_ok.mp hread
  cases hdone
  exact ⟨_, _, _, _, rfl⟩

end ProductionClosure.CommandLine

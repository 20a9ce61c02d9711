import ProductionClosure.Proofs.Resolution.Queries

/-!
A resolution under other variables. The environment is handed on to the processes and read nowhere
else, so two worlds that differ in some variables alone come to the same resolution, step by step, and
start the same processes, each with the variables of its own world.
-/

namespace ProductionClosure

/-- Two worlds with the same disk, package manager and wording, whose environments agree, but for
some names. -/
structure World.AgreesBut (names : List String) (world other : World) : Prop where
  files : world.files = other.files
  tools : world.tools = other.tools
  environment : world.environment.AgreesBut names other.environment
  wording : world.wording = other.wording

variable {names : List String} {world other : World}

namespace World.AgreesBut

theorem listing_run (h : world.AgreesBut names other) (executable folder : String)
    (changes : Environment) :
    (Listing.run world executable folder changes).Alike (Call.AgreesBut names)
      (Listing.run other executable folder changes) := by
  unfold Listing.run
  refine .andThen (.of_silent rfl) fun _ => .andThen (.start ?_) fun _ => ?_
  · exact ⟨rfl, rfl, .some (h.environment.overridden changes)⟩
  · rw [h.tools]
    exact .of_silent rfl

theorem queryTree (h : world.AgreesBut names other) (packageManager folder : String) :
    (queryTree world packageManager folder).Alike (Call.AgreesBut names)
      (queryTree other packageManager folder) := by
  unfold ProductionClosure.queryTree
  rw [h.files, h.tools]
  dsimp only
  split
  · refine .andThen (h.listing_run _ _ _) fun listing => ?_
    exact .of_silent (calls_usable _ _ listing)
  · exact .of_silent rfl

theorem resolveWorkspace (h : world.AgreesBut names other) (config : Config) (folder : Path) :
    (resolveWorkspace world config folder).Alike (Call.AgreesBut names)
      (resolveWorkspace other config folder) := by
  unfold ProductionClosure.resolveWorkspace
  rw [h.files]
  refine .andThen (h.queryTree _ _) fun raw => .of_silent ?_
  refine Run.calls_andThen_eq_nil (calls_readEntriesOf raw) fun entries => ?_
  refine Run.calls_andThen_eq_nil (calls_warnOfNoEntries entries) fun warnings => ?_
  refine Run.calls_andThen_eq_nil (calls_collectClosure entries) fun paths => ?_
  exact Run.calls_andThen_eq_nil (calls_hoist _ _ _) fun _ => rfl

theorem resolveOverlay (h : world.AgreesBut names other) (config : Config) (folder : Path) :
    (resolveOverlay world config folder).Alike (Call.AgreesBut names)
      (resolveOverlay other config folder) := by
  unfold ProductionClosure.resolveOverlay
  refine .andThen (.of_silent rfl) fun _ => .andThen (h.resolveWorkspace _ _).attempt fun part => ?_
  cases part <;> exact .of_silent rfl

theorem overlayPart (h : world.AgreesBut names other) (config : Config) (workspace repoRoot : Path) :
    (overlayPart world config workspace repoRoot).Alike (Call.AgreesBut names)
      (overlayPart other config workspace repoRoot) := by
  unfold ProductionClosure.overlayPart
  rw [h.files]
  refine .andThen (.of_silent (calls_findOverlay _ _)) fun found => ?_
  cases found with
  | some folder => exact h.resolveOverlay config folder
  | none => exact .of_silent (Run.calls_andThen_eq_nil (calls_overlayRoot _ _) fun _ => rfl)

/-- Other variables change nothing about a resolution but what is handed on to its processes. -/
theorem resolve (h : world.AgreesBut names other) (config : Config) (workspace repoRoot : Path)
    (wantsOverlay : Bool) :
    (resolve world config workspace repoRoot wantsOverlay).Alike (Call.AgreesBut names)
      (resolve other config workspace repoRoot wantsOverlay) := by
  unfold ProductionClosure.resolve
  refine .andThen (h.resolveWorkspace _ _).attempt fun primary => ?_
  cases primary with
  | error failure => exact .of_silent rfl
  | ok primary =>
    dsimp only
    split
    · exact .andThen (h.overlayPart _ _ _) fun overlay => .of_silent rfl
    · exact .of_silent rfl

end World.AgreesBut

end ProductionClosure

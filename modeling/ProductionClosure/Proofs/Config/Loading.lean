import ProductionClosure.Config.Loading
import ProductionClosure.Proofs.FileSystem.Lookup
import ProductionClosure.Proofs.Run

/-!
How loading the settings fails. Some causes are prepared for and end in a word on the settings file:
it is missing, it may not be read, its text is no YAML, or what it holds are no settings. Others pass
by the steps that prepare for them: a name that the system refuses, octets that are no text, scalars
that are not the value they claim to be, nesting without end, and a repository root that no real path
leads to.
-/

namespace ProductionClosure.Config

def Holds (files : FileSystem) (path : Path) (document : Yaml.Document) : Prop :=
  ∃ text, textOf files path = .ok text ∧ Yaml.Document.parse text = .ok document

/-- The file at a path gives settings, the repository root being as it is written. -/
def Gives (files : FileSystem) (path : Path) (config : Config) : Prop :=
  ∃ document pairs, Holds files path document ∧ recordOf path document = .ok pairs ∧
    ofSettings (Yaml.Value.settings pairs) = .ok config

/-- What is wrong with a settings file, where loading is prepared for it. -/
inductive Refuses (words : String → String) (files : FileSystem) (path : Path) : Fault → Prop where
  | missing (h : files.isFile? path = .ok false) : Refuses words files path (.missing path)
  | unreadable {octets : List UInt8}
      (h : files.status path.toString = .ok (.file octets false)) :
      Refuses words files path (.unreadable path .denied)
  | malformed {text : String} (htext : textOf files path = .ok text)
      (h : Yaml.Document.parse text = .error .malformed) :
      Refuses words files path (.malformed path (words text))
  | notRecord {document : Yaml.Document} {fault : Fault} (hdocument : Holds files path document)
      (h : recordOf path document = .error fault) : Refuses words files path fault
  | invalid {document : Yaml.Document} {pairs : List (Yaml.Value × Yaml.Value)}
      {rejection : Schema.Rejection} (hdocument : Holds files path document)
      (hpairs : recordOf path document = .ok pairs)
      (h : ofSettings (Yaml.Value.settings pairs) = .error rejection) :
      Refuses words files path (.invalid rejection)

/-- What loading is not prepared for, with the failure that it ends in. -/
inductive Escapes (files : FileSystem) (path : Path) : Failure → Prop where
  | nameTooLong (h : files.status path.toString = .error .nameTooLong) :
      Escapes files path (.file .nameTooLong path.toString)
  | undecodable {octets : List UInt8} {fault : Text.Utf8Fault}
      (hread : files.read path.toString = .ok octets)
      (h : Text.decodeUtf8 octets = .error fault) : Escapes files path (.undecodable fault)
  | nestedTooDeeply {text : String} (htext : textOf files path = .ok text)
      (h : Yaml.Document.parse text = .error .tooDeep) : Escapes files path .nestedTooDeeply
  | scalar {text : String} {problem : Yaml.ScalarProblem} (htext : textOf files path = .ok text)
      (h : Yaml.Document.parse text = .error (.scalar problem)) :
      Escapes files path (.scalar problem)
  | repoRoot {config : Config} {root : Path} {problem : FileSystem.ResolveProblem}
      (hconfig : Gives files path config) (hroot : config.givenRoot? = some root)
      (hrelative : root.isAbsolute = false)
      (h : files.resolve (path.parent / root) = .error problem) :
      Escapes files path (Failure.ofResolveProblem (path.parent / root) problem)

variable {words : String → String} {files : FileSystem} {path : Path} {failure : Failure}

/-! ### The text of the file -/

theorem isFile_of_read {octets : List UInt8} (h : files.read path.toString = .ok octets) :
    files.isFile? path = .ok true := by
  refine FileSystem.ask_eq_true_iff.mpr ?_
  unfold FileSystem.read at h
  split at h
  · next content hstatus => exact ⟨_, hstatus, rfl⟩
  all_goals cases h

theorem textOf_eq_ok {text : String} :
    textOf files path = .ok text ↔
      ∃ octets decoded, files.read path.toString = .ok octets ∧
        Text.decodeUtf8 octets = .ok decoded ∧ Text.withUnixNewlines decoded = text := by
  simp only [textOf, Outcome.bind_eq_ok, Outcome.mapError_eq_ok]
  constructor
  · rintro ⟨octets, hread, decoded, hdecoded, htext⟩
    cases htext
    exact ⟨octets, decoded, hread, hdecoded, rfl⟩
  · rintro ⟨octets, decoded, hread, hdecoded, rfl⟩
    exact ⟨octets, hread, decoded, hdecoded, rfl⟩

theorem textOf_eq_error :
    textOf files path = .error failure ↔
      (∃ problem, files.read path.toString = .error problem ∧
        failure = .config (.unreadable path problem)) ∨
      ∃ octets fault, files.read path.toString = .ok octets ∧
        Text.decodeUtf8 octets = .error fault ∧ failure = .undecodable fault := by
  simp only [textOf, Outcome.bind_eq_error, Outcome.mapError_eq_error, Outcome.mapError_eq_ok]
  constructor
  · rintro (⟨problem, hread, rfl⟩ | ⟨octets, hread, ⟨fault, hfault, rfl⟩ | ⟨_, -, hdone⟩⟩)
    · exact Or.inl ⟨problem, hread, rfl⟩
    · exact Or.inr ⟨octets, fault, hread, hfault, rfl⟩
    · cases hdone
  · rintro (⟨problem, hread, rfl⟩ | ⟨octets, fault, hread, hfault, rfl⟩)
    · exact Or.inl ⟨problem, hread, rfl⟩
    · exact Or.inr ⟨octets, hread, Or.inl ⟨fault, hfault, rfl⟩⟩

theorem isFile_of_textOf {text : String} (h : textOf files path = .ok text) :
    files.isFile? path = .ok true := by
  obtain ⟨octets, decoded, hread, -, -⟩ := textOf_eq_ok.mp h
  exact isFile_of_read hread

/-- A file that is there can only be closed to its reader. -/
theorem read_eq_error_of_isFile {problem : FileProblem} (hfile : files.isFile? path = .ok true) :
    files.read path.toString = .error problem ↔
      problem = .denied ∧ ∃ octets, files.status path.toString = .ok (.file octets false) := by
  obtain ⟨entry, hstatus, hentry⟩ := FileSystem.ask_eq_true_iff.mp hfile
  unfold FileSystem.read
  cases entry with
  | directory | link => cases hentry
  | file octets readable =>
    rw [hstatus]
    cases readable with
    | true => simp
    | false => simp [eq_comm]

/-! ### The settings in the text -/

theorem parse_eq_ok {text : String} {config : Config} :
    parse words path text = .ok config ↔
      ∃ document pairs, Yaml.Document.parse text = .ok document ∧
        recordOf path document = .ok pairs ∧
        ofSettings (Yaml.Value.settings pairs) = .ok config := by
  simp only [parse, Outcome.bind_eq_ok, Outcome.mapError_eq_ok]
  constructor
  · rintro ⟨document, hdocument, pairs, hpairs, hconfig⟩
    exact ⟨document, pairs, hdocument, hpairs, hconfig⟩
  · rintro ⟨document, pairs, hdocument, hpairs, hconfig⟩
    exact ⟨document, hdocument, pairs, hpairs, hconfig⟩

/-- Whatever is wrong with a text comes to light in one of three steps. -/
theorem parse_eq_error {text : String} :
    parse words path text = .error failure ↔
      (∃ problem, Yaml.Document.parse text = .error problem ∧
        failure = match problem with
          | .malformed => .config (.malformed path (words text))
          | .tooDeep => .nestedTooDeeply
          | .scalar problem => .scalar problem) ∨
      ∃ document, Yaml.Document.parse text = .ok document ∧
        ((∃ fault, recordOf path document = .error fault ∧ failure = .config fault) ∨
          ∃ pairs rejection, recordOf path document = .ok pairs ∧
            ofSettings (Yaml.Value.settings pairs) = .error rejection ∧
            failure = .config (.invalid rejection)) := by
  simp only [parse, Outcome.bind_eq_error, Outcome.mapError_eq_error, Outcome.mapError_eq_ok]
  constructor
  · rintro (⟨problem, hproblem, rfl⟩ | ⟨document, hdocument, hrest⟩)
    · exact Or.inl ⟨problem, hproblem, by cases problem <;> rfl⟩
    · refine Or.inr ⟨document, hdocument, ?_⟩
      rcases hrest with ⟨fault, hfault, rfl⟩ | ⟨pairs, hpairs, rejection, hrejection, rfl⟩
      · exact Or.inl ⟨fault, hfault, rfl⟩
      · exact Or.inr ⟨pairs, rejection, hpairs, hrejection, rfl⟩
  · rintro (⟨problem, hproblem, rfl⟩ | ⟨document, hdocument, hrest⟩)
    · exact Or.inl ⟨problem, hproblem, by cases problem <;> rfl⟩
    · refine Or.inr ⟨document, hdocument, ?_⟩
      rcases hrest with ⟨fault, hfault, rfl⟩ | ⟨pairs, rejection, hpairs, hrejection, rfl⟩
      · exact Or.inl ⟨fault, hfault, rfl⟩
      · exact Or.inr ⟨pairs, hpairs, rejection, hrejection, rfl⟩

theorem givenRoot?_eq_some {config : Config} {root : Path} :
    config.givenRoot? = some root ↔
      ∃ text, config.repoRoot = some text ∧ text ≠ "" ∧ Path.ofString text = root := by
  simp [givenRoot?, and_assoc]

theorem givenRoot?_eq_none {config : Config} :
    config.givenRoot? = none ↔ ∀ text, config.repoRoot = some text → text = "" := by
  simp [givenRoot?]

theorem anchored_eq_error {config : Config} :
    anchored files path config = .error failure ↔
      ∃ root problem, config.givenRoot? = some root ∧ root.isAbsolute = false ∧
        files.resolve (path.parent / root) = .error problem ∧
        failure = Failure.ofResolveProblem (path.parent / root) problem := by
  unfold anchored
  cases hroot : config.givenRoot? with
  | none => simp
  | some root =>
    cases habsolute : root.isAbsolute with
    | true => simp [habsolute]
    | false =>
      simp only [habsolute, Bool.false_eq_true, if_false, Outcome.bind_eq_error,
        FileSystem.resolved, Outcome.mapError_eq_error]
      constructor
      · rintro (⟨problem, hproblem, rfl⟩ | ⟨_, -, hdone⟩)
        · exact ⟨root, problem, rfl, habsolute, hproblem, rfl⟩
        · cases hdone
      · rintro ⟨_, problem, hsome, -, hproblem, rfl⟩
        cases hsome
        exact Or.inl ⟨problem, hproblem, rfl⟩

theorem gives_of_parse {text : String} {config : Config} (htext : textOf files path = .ok text)
    (h : parse words path text = .ok config) : Gives files path config := by
  obtain ⟨document, pairs, hdocument, hpairs, hconfig⟩ := parse_eq_ok.mp h
  exact ⟨document, pairs, ⟨text, htext, hdocument⟩, hpairs, hconfig⟩

theorem Gives.exists_parse {config : Config} (h : Gives files path config)
    (words : String → String) :
    ∃ text, textOf files path = .ok text ∧ parse words path text = .ok config := by
  obtain ⟨document, pairs, ⟨text, htext, hdocument⟩, hpairs, hconfig⟩ := h
  exact ⟨text, htext, parse_eq_ok.mpr ⟨document, pairs, hdocument, hpairs, hconfig⟩⟩

/-! ### The whole of loading -/

theorem answer_of_ok {question : Path → Except FileProblem Bool} {answer : Bool}
    (h : question path = .ok answer) : FileSystem.answer question path = .ok answer := by
  rw [FileSystem.answer, h]
  rfl

theorem outcome_load_of_not_file (h : files.isFile? path = .ok false) :
    (load words files path).outcome = .error (.config (.missing path)) := by
  simp [load, answer_of_ok h]

theorem outcome_load_of_unanswered {problem : FileProblem}
    (h : files.isFile? path = .error problem) :
    (load words files path).outcome = .error (.file problem path.toString) := by
  have hanswer : FileSystem.answer files.isFile? path = .error (.file problem path.toString) := by
    rw [FileSystem.answer, h]
    rfl
  simp [load, hanswer]

theorem outcome_load_of_isFile (h : files.isFile? path = .ok true) :
    (load words files path).outcome =
      textOf files path >>= fun text => parse words path text >>= anchored files path := by
  simp only [load, answer_of_ok h, Run.bind_eq, Run.outcome_ok_andThen, if_true,
    Run.outcome_report_andThen]
  generalize (textOf files path >>= fun text => parse words path text >>= anchored files path) =
    outcome
  cases outcome <;> rfl

/-- Loading a file that is there fails in its text, in the settings it holds, or in the place of the
repository root. -/
theorem outcome_load_of_isFile_eq_error (hfile : files.isFile? path = .ok true) :
    (load words files path).outcome = .error failure ↔
      textOf files path = .error failure ∨
        (∃ text, textOf files path = .ok text ∧ parse words path text = .error failure) ∨
        ∃ config, Gives files path config ∧ anchored files path config = .error failure := by
  rw [outcome_load_of_isFile hfile, Outcome.bind_eq_error]
  -- both sides begin with the text, and what is left is the text that was read
  refine or_congr_right ?_
  simp only [Outcome.bind_eq_error]
  constructor
  · rintro ⟨text, htext, hparse | ⟨config, hconfig, hroot⟩⟩
    · exact Or.inl ⟨text, htext, hparse⟩
    · exact Or.inr ⟨config, gives_of_parse htext hconfig, hroot⟩
  · rintro (⟨text, htext, hparse⟩ | ⟨config, hconfig, hroot⟩)
    · exact ⟨text, htext, Or.inl hparse⟩
    · obtain ⟨text, htext, hparse⟩ := hconfig.exists_parse words
      exact ⟨text, htext, Or.inr ⟨config, hparse, hroot⟩⟩

def Fails (words : String → String) (files : FileSystem) (path : Path) (failure : Failure) : Prop :=
  (∃ fault, failure = .config fault ∧ Refuses words files path fault) ∨ Escapes files path failure

theorem fails_of_textOf (hfile : files.isFile? path = .ok true)
    (h : textOf files path = .error failure) : Fails words files path failure := by
  rcases textOf_eq_error.mp h with ⟨problem, hread, rfl⟩ | ⟨octets, fault, hread, hfault, rfl⟩
  · obtain ⟨rfl, octets, hstatus⟩ := (read_eq_error_of_isFile hfile).mp hread
    exact Or.inl ⟨_, rfl, .unreadable hstatus⟩
  · exact Or.inr (.undecodable hread hfault)

theorem fails_of_parse {text : String} (htext : textOf files path = .ok text)
    (h : parse words path text = .error failure) : Fails words files path failure := by
  rcases parse_eq_error.mp h with ⟨problem, hproblem, hfailure⟩ | ⟨document, hdocument, hrest⟩
  · subst hfailure
    cases problem with
    | malformed => exact Or.inl ⟨_, rfl, .malformed htext hproblem⟩
    | tooDeep => exact Or.inr (.nestedTooDeeply htext hproblem)
    | scalar problem => exact Or.inr (.scalar htext hproblem)
  · have hholds : Holds files path document := ⟨text, htext, hdocument⟩
    rcases hrest with ⟨fault, hfault, rfl⟩ | ⟨pairs, rejection, hpairs, hrejection, rfl⟩
    · exact Or.inl ⟨_, rfl, .notRecord hholds hfault⟩
    · exact Or.inl ⟨_, rfl, .invalid hholds hpairs hrejection⟩

theorem fails_of_load (h : (load words files path).outcome = .error failure) :
    Fails words files path failure := by
  cases hfile : files.isFile? path with
  | error problem =>
    rw [outcome_load_of_unanswered hfile] at h
    cases h
    obtain ⟨rfl, hstatus⟩ := FileSystem.ask_eq_error_iff.mp hfile
    exact Or.inr (.nameTooLong hstatus)
  | ok present =>
    cases present with
    | false =>
      rw [outcome_load_of_not_file hfile] at h
      cases h
      exact Or.inl ⟨_, rfl, .missing hfile⟩
    | true =>
      rcases (outcome_load_of_isFile_eq_error hfile).mp h with
        htext | ⟨text, htext, hparse⟩ | ⟨config, hconfig, hanchored⟩
      · exact fails_of_textOf hfile htext
      · exact fails_of_parse htext hparse
      · obtain ⟨root, problem, hroot, hrelative, hresolve, rfl⟩ := anchored_eq_error.mp hanchored
        exact Or.inr (.repoRoot hconfig hroot hrelative hresolve)

theorem outcome_load_of_parse {text : String} (htext : textOf files path = .ok text)
    (h : parse words path text = .error failure) :
    (load words files path).outcome = .error failure :=
  (outcome_load_of_isFile_eq_error (isFile_of_textOf htext)).mpr (Or.inr (Or.inl ⟨text, htext, h⟩))

theorem Refuses.outcome_load {fault : Fault} (h : Refuses words files path fault) :
    (load words files path).outcome = .error (.config fault) := by
  cases h with
  | missing hfile => exact outcome_load_of_not_file hfile
  | unreadable hstatus =>
    have hfile : files.isFile? path = .ok true :=
      FileSystem.ask_eq_true_iff.mpr ⟨_, hstatus, rfl⟩
    have hread := (read_eq_error_of_isFile hfile).mpr ⟨rfl, _, hstatus⟩
    exact (outcome_load_of_isFile_eq_error hfile).mpr
      (Or.inl (textOf_eq_error.mpr (Or.inl ⟨_, hread, rfl⟩)))
  | malformed htext hproblem =>
    exact outcome_load_of_parse htext (parse_eq_error.mpr (Or.inl ⟨_, hproblem, rfl⟩))
  | notRecord hdocument hfault =>
    obtain ⟨text, htext, hdocument⟩ := hdocument
    exact outcome_load_of_parse htext
      (parse_eq_error.mpr (Or.inr ⟨_, hdocument, Or.inl ⟨_, hfault, rfl⟩⟩))
  | invalid hdocument hpairs hrejection =>
    obtain ⟨text, htext, hdocument⟩ := hdocument
    exact outcome_load_of_parse htext
      (parse_eq_error.mpr (Or.inr ⟨_, hdocument, Or.inr ⟨_, _, hpairs, hrejection, rfl⟩⟩))

theorem Escapes.outcome_load (h : Escapes files path failure) (words : String → String) :
    (load words files path).outcome = .error failure := by
  cases h with
  | nameTooLong hstatus =>
    exact outcome_load_of_unanswered (FileSystem.ask_eq_error_iff.mpr ⟨rfl, hstatus⟩)
  | undecodable hread hfault =>
    exact (outcome_load_of_isFile_eq_error (isFile_of_read hread)).mpr
      (Or.inl (textOf_eq_error.mpr (Or.inr ⟨_, _, hread, hfault, rfl⟩)))
  | nestedTooDeeply htext hproblem | scalar htext hproblem =>
    exact outcome_load_of_parse htext (parse_eq_error.mpr (Or.inl ⟨_, hproblem, rfl⟩))
  | repoRoot hconfig hroot hrelative hresolve =>
    obtain ⟨text, htext, -⟩ := hconfig.exists_parse words
    exact (outcome_load_of_isFile_eq_error (isFile_of_textOf htext)).mpr
      (Or.inr (Or.inr ⟨_, hconfig, anchored_eq_error.mpr ⟨_, _, hroot, hrelative, hresolve, rfl⟩⟩))

/-- Loading fails for the listed causes, and for each of them. -/
theorem outcome_load_eq_error :
    (load words files path).outcome = .error failure ↔ Fails words files path failure := by
  constructor
  · exact fails_of_load
  · rintro (⟨fault, rfl, hrefuses⟩ | hescapes)
    · exact hrefuses.outcome_load
    · exact hescapes.outcome_load words

/-- Loading starts no process. -/
@[simp] theorem calls_load : (load words files path).calls = [] := by
  refine Run.calls_andThen_eq_nil rfl fun present => ?_
  cases present with
  | false => rfl
  | true => exact Run.calls_andThen_eq_nil rfl fun _ => Run.calls_andThen_eq_nil rfl fun _ => rfl

/-- What escapes is never a word on the settings file. -/
theorem Escapes.not_config (h : Escapes files path failure) (fault : Fault) :
    failure ≠ .config fault := by
  rintro rfl
  generalize hfailure : Failure.config fault = failure at h
  cases h with
  | nameTooLong | undecodable | nestedTooDeeply | scalar => cases hfailure
  | @repoRoot _ root problem =>
    cases problem <;> cases hfailure

end ProductionClosure.Config

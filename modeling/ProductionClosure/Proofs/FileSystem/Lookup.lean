import ProductionClosure.FileSystem.RealPath
import ProductionClosure.Proofs.Outcome
import ProductionClosure.Proofs.Path

/-!
How lookups fail. Whatever a lookup meets, either nothing is there or a name is too long to be
looked up at all; a question about a path turns the first into "no" and passes the second on. The
long name is then one that the path, the working folder or the target of a link has. The search for
a real path fails for a NUL alone, since it keeps what it cannot follow.
-/

namespace ProductionClosure

/-- A problem that means that nothing is there, or a name that is too long. -/
def FileProblem.OfLookup (problem : FileProblem) : Prop :=
  problem.meansAbsent = true ∨ problem = .nameTooLong

namespace FileSystem

/-! ### Steps -/

section

variable {fs : FileSystem} {followLast : Bool} {links : Nat} {here : Place} {name : String}
  {rest : List String}

theorem walk_skip (hfolder : fs.entry? here = some .directory) (hname : name = "" ∨ name = ".") :
    fs.walk followLast links here (name :: rest) = fs.walk followLast links here rest := by
  rw [walk]
  simp only [hfolder, hname, if_true]

theorem walk_parent (hfolder : fs.entry? here = some .directory) :
    fs.walk followLast links here (".." :: rest) = fs.walk followLast links here.dropLast rest := by
  rw [walk]
  simp only [hfolder, if_neg (show ¬ (".." = "" ∨ ".." = ".") by decide), if_true]

section

variable (hfolder : fs.entry? here = some .directory) (hskip : ¬ (name = "" ∨ name = "."))
  (hparent : ¬ name = "..") (hshort : ¬ maxNameOctets < name.utf8ByteSize)
include hfolder hskip hparent hshort

theorem walk_down {entry : Entry} (hentry : fs.entry? (here ++ [name]) = some entry)
    (hlink : ∀ target, entry = .link target → False) :
    fs.walk followLast links here (name :: rest) =
      fs.walk followLast links (here ++ [name]) rest := by
  rw [walk]
  simp only [hfolder, hskip, hparent, hshort, if_false, hentry]

theorem walk_absent (hentry : fs.entry? (here ++ [name]) = none) :
    fs.walk followLast links here (name :: rest) =
      if rest = [] then .ok (here ++ [name], none) else .error .missing := by
  rw [walk]
  simp only [hfolder, hskip, hparent, hshort, if_false, hentry]

section

variable {target : String} (hentry : fs.entry? (here ++ [name]) = some (.link target))
include hentry

theorem walk_last_link :
    fs.walk false links here [name] = .ok (here ++ [name], some (.link target)) := by
  rw [walk]
  simp [hfolder, hskip, hparent, hshort, hentry]

theorem walk_too_many_links (hgoes : ¬ (rest = [] ∧ !followLast)) :
    fs.walk followLast 0 here (name :: rest) = .error .tooManyLinks := by
  rw [walk]
  simp only [hfolder, hskip, hparent, hshort, if_false, hentry, hgoes]

/-- A link uses up one of the links that may be followed. -/
theorem walk_link (hgoes : ¬ (rest = [] ∧ !followLast)) :
    fs.walk followLast (links + 1) here (name :: rest) =
      if target = "" then .error .missing
      else fs.walk followLast links (if (Path.ofString target).isAbsolute then [] else here)
        (Text.splitSlash target ++ rest) := by
  rw [walk]
  simp only [hfolder, hskip, hparent, hshort, if_false, hentry, hgoes]

end

end

end

/-! ### Problems -/

theorem ofLookup_of_walk {fs : FileSystem} {followLast : Bool} {links : Nat} {here : Place}
    {components : List String} {problem : FileProblem}
    (h : fs.walk followLast links here components = .error problem) : problem.OfLookup := by
  fun_induction walk fs followLast links here components with
  | case1 => cases h
  | case2 | case3 | case4 =>
    cases h
    exact Or.inl rfl
  | case5 | case6 =>
    rename_i ih
    exact ih h
  | case7 =>
    cases h
    exact Or.inr rfl
  | case8 => cases h
  | case9 =>
    cases h
    exact Or.inl rfl
  | case10 => cases h
  | case11 | case12 =>
    cases h
    exact Or.inl rfl
  | case13 | case14 =>
    rename_i ih
    exact ih h

theorem ofLookup_of_locate {fs : FileSystem} {followLast : Bool} {path : String}
    {problem : FileProblem} (h : fs.locate followLast path = .error problem) :
    problem.OfLookup := by
  unfold locate at h
  split at h
  · cases h
    exact Or.inl rfl
  · split at h
    · cases h
      exact Or.inl rfl
    · split at h
      · cases h
        exact Or.inr rfl
      · exact ofLookup_of_walk h

theorem status_of_locate_error {fs : FileSystem} {path : String} {problem : FileProblem}
    (h : fs.locate true path = .error problem) : fs.status path = .error problem := by
  unfold status
  rw [h]
  rfl

theorem status_of_locate_ok {fs : FileSystem} {path : String} {place : Place}
    {entry : Option Entry} (h : fs.locate true path = .ok (place, entry)) :
    fs.status path = entry.elim (.error .missing) .ok := by
  unfold status
  rw [h]
  cases entry <;> rfl

theorem ofLookup_of_status {fs : FileSystem} {path : String} {problem : FileProblem}
    (h : fs.status path = .error problem) : problem.OfLookup := by
  cases hlocate : fs.locate true path with
  | error other =>
    rw [status_of_locate_error hlocate] at h
    cases h
    exact ofLookup_of_locate hlocate
  | ok found =>
    obtain ⟨place, entry⟩ := found
    rw [status_of_locate_ok hlocate] at h
    cases entry with
    | none =>
      cases h
      exact Or.inl rfl
    | some entry => cases h

theorem locate_root (fs : FileSystem) (followLast : Bool) :
    fs.locate followLast "/" = .ok ([], some .directory) := by
  have hpieces : Text.splitSlash "/" = ["", ""] := by decide
  have habsolute : (Path.ofString "/").isAbsolute = true := by decide
  simp [locate, String.contains_char_eq, hpieces, habsolute, maxPathOctets, walk, entry?]
  decide

/-- The root is a folder, whatever stands below it. -/
theorem status_root (fs : FileSystem) : fs.status "/" = .ok .directory := by
  rw [status_of_locate_ok (fs.locate_root true)]
  rfl

/-- A path with a NUL is refused before anything is looked up. -/
theorem status_of_nul (fs : FileSystem) {path : String} (h : '\x00' ∈ path.toList) :
    fs.status path = .error .nulCharacter := by
  have hcontains : path.contains '\x00' = true := by
    rw [String.contains_char_eq]
    exact decide_eq_true h
  refine status_of_locate_error ?_
  rw [locate, if_pos hcontains]

/-- A long name is refused in any folder, whatever stands there. -/
theorem walk_of_long_name {fs : FileSystem} {here : Place} {name : String}
    (hfolder : fs.entry? here = some .directory) (hlong : maxNameOctets < name.utf8ByteSize)
    (followLast : Bool) (links : Nat) (rest : List String) :
    fs.walk followLast links here (name :: rest) = .error .nameTooLong := by
  have hproper : ∀ short : String, short.utf8ByteSize ≤ 2 → name ≠ short := by
    rintro short hshort rfl
    unfold maxNameOctets at hlong
    omega
  unfold walk
  rw [hfolder]
  show (if name = "" ∨ name = "." then _ else _) = _
  rw [if_neg, if_neg, if_pos hlong]
  · exact hproper ".." (by decide)
  · rintro (rfl | rfl)
    · exact hproper "" (by decide) rfl
    · exact hproper "." (by decide) rfl

/-- A name of more than 255 octets is refused, whatever stands at the root. -/
theorem status_of_long_name {fs : FileSystem} {name : String}
    (hlong : maxNameOctets < name.utf8ByteSize) (hslash : '/' ∉ name.toList)
    (hnul : '\x00' ∉ name.toList) : fs.status ("/" ++ name) = .error .nameTooLong := by
  have hnone : ("/" ++ name).contains '\x00' = false := by
    rw [String.contains_char_eq, String.toList_append]
    simpa using hnul
  have hpieces : Text.splitSlash ("/" ++ name) = ["", name] := by
    have hsplit := Text.splitSlash_append_slash (s := "") (by decide) name
    rwa [Text.splitSlash_of_no_slash hslash, String.empty_append] at hsplit
  refine status_of_locate_error ?_
  unfold locate
  rw [hnone, Path.isAbsolute_of_slash, hpieces]
  simp only [Bool.false_eq_true, if_false, if_true, List.nil_append]
  rw [if_neg (by simp)]
  split
  · rfl
  · -- the empty name before the slash leads to the root, and there the name is looked up
    unfold walk
    simp only [if_true, true_or, entry?]
    exact walk_of_long_name rfl hlong true maxLinks []

/-! ### Names that are too long -/

/-- Some name is longer than a name may be. -/
def LongName (names : List String) : Prop :=
  ∃ name ∈ names, maxNameOctets < name.utf8ByteSize

/-- Something that a lookup may come across is too long: the whole path, one of its names, or a name
in the working folder or in the target of a link. -/
inductive TooLong (fs : FileSystem) (path : String) : Prop where
  | whole (h : maxPathOctets < path.utf8ByteSize)
  | names (h : LongName (Text.splitSlash path))
  | workingFolder (h : LongName (Text.splitSlash fs.workingFolder))
  | target {place : Place} {target : String} (hlink : fs.entry? place = some (.link target))
      (h : LongName (Text.splitSlash target))

theorem LongName.mono {names more : List String} (h : LongName names) (hmore : names ⊆ more) :
    LongName more := by
  obtain ⟨name, hname, hlong⟩ := h
  exact ⟨name, hmore hname, hlong⟩

theorem longName_append {front back : List String} (h : LongName (front ++ back)) :
    LongName front ∨ LongName back := by
  obtain ⟨name, hname, hlong⟩ := h
  rcases List.mem_append.mp hname with hfront | hback
  · exact Or.inl ⟨name, hfront, hlong⟩
  · exact Or.inr ⟨name, hback, hlong⟩

theorem longName_of_walk {fs : FileSystem} {followLast : Bool} {links : Nat} {here : Place}
    {components : List String}
    (h : fs.walk followLast links here components = .error .nameTooLong) :
    LongName components ∨ ∃ place target, fs.entry? place = some (.link target) ∧
      LongName (Text.splitSlash target) := by
  fun_induction walk fs followLast links here components with
  | case1 | case2 | case3 | case4 | case8 | case9 | case10 | case11 | case12 => cases h
  | case5 | case6 | case14 =>
    rename_i ih
    exact (ih h).imp_left fun hrest => hrest.mono (List.subset_cons_self _ _)
  | case7 _ _ name rest _ _ _ hlong => exact Or.inl ⟨name, List.mem_cons_self, hlong⟩
  | case13 _ name rest _ _ _ _ place target hlink _ links _ ih =>
    -- the names of the target are looked up in front of those that stand behind the link
    rcases ih h with hnames | htarget
    · rcases longName_append hnames with hfollowed | hrest
      · exact Or.inr ⟨place, target, hlink, hfollowed⟩
      · exact Or.inl (hrest.mono (List.subset_cons_self _ _))
    · exact Or.inr htarget

theorem tooLong_of_locate {fs : FileSystem} {followLast : Bool} {path : String}
    (h : fs.locate followLast path = .error .nameTooLong) : fs.TooLong path := by
  unfold locate at h
  split at h
  · cases h
  · split at h
    · cases h
    · split at h
      · next hlong => exact .whole hlong
      · rcases longName_of_walk h with hnames | ⟨place, target, hlink, htarget⟩
        · rcases longName_append hnames with hstart | hpath
          · split at hstart
            · obtain ⟨_, hname, -⟩ := hstart
              cases hname
            · exact .workingFolder hstart
          · exact .names hpath
        · exact .target hlink htarget

/-- A lookup is refused for a length alone where something in its way is too long. -/
theorem tooLong_of_status {fs : FileSystem} {path : String}
    (h : fs.status path = .error .nameTooLong) : fs.TooLong path := by
  cases hlocate : fs.locate true path with
  | error problem =>
    rw [status_of_locate_error hlocate] at h
    cases h
    exact tooLong_of_locate hlocate
  | ok found =>
    obtain ⟨place, entry⟩ := found
    rw [status_of_locate_ok hlocate] at h
    cases entry with
    | none => cases h
    | some entry => cases h

/-! ### Questions about a path -/

theorem ask_of_status_ok {fs : FileSystem} {path : Path} {entry : Entry}
    (h : fs.status path.toString = .ok entry) (test : Entry → Bool) :
    fs.ask test path = .ok (test entry) := by
  simp only [ask, h]

theorem ask_of_status_error {fs : FileSystem} {path : Path} {problem : FileProblem}
    (h : fs.status path.toString = .error problem) (test : Entry → Bool) :
    fs.ask test path = if problem.meansAbsent then .ok false else .error problem := by
  simp only [ask, h]

theorem isDirectoryText_of_status_ok {fs : FileSystem} {path : String} {entry : Entry}
    (h : fs.status path = .ok entry) : fs.isDirectoryText path = entry.isDirectory := by
  simp only [isDirectoryText, h]

/-- A question stays without an answer exactly when a name is too long. -/
theorem ask_eq_error_iff {fs : FileSystem} {test : Entry → Bool} {path : Path}
    {problem : FileProblem} :
    fs.ask test path = .error problem ↔
      problem = .nameTooLong ∧ fs.status path.toString = .error .nameTooLong := by
  cases hstatus : fs.status path.toString with
  | ok entry =>
    rw [ask_of_status_ok hstatus]
    simp
  | error other =>
    rw [ask_of_status_error hstatus]
    rcases ofLookup_of_status hstatus with habsent | rfl
    · rw [if_pos habsent]
      constructor
      · intro h
        cases h
      · rintro ⟨-, h⟩
        cases h
        cases habsent
    · simp [FileProblem.meansAbsent, eq_comm]

/-- A question is answered "yes" exactly when something that passes the test is there. -/
theorem ask_eq_true_iff {fs : FileSystem} {test : Entry → Bool} {path : Path} :
    fs.ask test path = .ok true ↔
      ∃ entry, fs.status path.toString = .ok entry ∧ test entry = true := by
  cases hstatus : fs.status path.toString with
  | ok entry =>
    rw [ask_of_status_ok hstatus]
    simp
  | error other =>
    rw [ask_of_status_error hstatus]
    split <;> simp

/-! ### Real paths -/

theorem nulCharacter_of_followReal {fs : FileSystem} {fuel : Nat} {path : Path}
    {components : List String} {followed : Followed} {problem : FileProblem}
    (h : fs.followReal fuel path components followed = .error problem) :
    problem = .nulCharacter := by
  fun_induction followReal fs fuel path components followed with
  | case1 | case2 | case7 => cases h
  | case3 | case4 | case6 | case9 =>
    rename_i ih
    exact ih h
  | case5 =>
    cases h
    rfl
  | case8 =>
    -- the target of a link is followed first, then what is left of the path behind it
    rename_i ihTarget ihRest
    rcases Outcome.bind_eq_error.mp h with htarget | ⟨⟨reached, settled, followed⟩, -, hrest⟩
    · exact ihTarget htarget
    · cases settled with
      | false => cases hrest
      | true => exact ihRest reached followed hrest

theorem nulCharacter_of_realPath {fs : FileSystem} {path : Path} {problem : FileProblem}
    (h : fs.realPath path = .error problem) : problem = .nulCharacter := by
  rcases Outcome.bind_eq_error.mp h with hfollow | ⟨_, -, hdone⟩
  · exact nulCharacter_of_followReal hfollow
  · cases hdone

end FileSystem

end ProductionClosure

import ProductionClosure.Proofs.FileSystem.RealPath

/-!
What a disk is apart from the contents of its files. Where a path leads depends on folders, links
and names alone, so a real path stays the same whatever is written into the files. Two disks are
compared by what is seen of an entry at each place: all of it, or all but the content of a file.
-/

namespace ProductionClosure

/-- An entry without the content of a file. -/
def Entry.outline : Entry → Entry
  | .file _ readable => .file [] readable
  | entry => entry

theorem Entry.outline_eq_directory {entry : Entry} :
    entry.outline = .directory ↔ entry = .directory := by
  cases entry <;> simp [outline]

theorem Entry.outline_eq_link {entry : Entry} {target : String} :
    entry.outline = .link target ↔ entry = .link target := by
  cases entry <;> simp [outline]

theorem Entry.outline_eq_file {entry : Entry} {readable : Bool} :
    entry.outline = .file [] readable ↔ ∃ content, entry = .file content readable := by
  cases entry <;> simp [outline]

namespace FileSystem

def outline (fs : FileSystem) : FileSystem :=
  { fs with entries := fs.entries.map fun entry => (entry.1, entry.2.outline) }

theorem entry?_outline (fs : FileSystem) (place : Place) :
    fs.outline.entry? place = (fs.entry? place).map Entry.outline := by
  have hlookup : ∀ entries : List (Place × Entry),
      (entries.map fun entry => (entry.1, entry.2.outline)).lookup place =
        (entries.lookup place).map Entry.outline := by
    intro entries
    induction entries with
    | nil => rfl
    | cons entry rest ih =>
      rw [List.map_cons, List.lookup_cons, List.lookup_cons]
      cases place == entry.1 with
      | true => rfl
      | false => exact ih
  unfold entry?
  split
  · rfl
  · exact hlookup fs.entries

/-! ### Lookups on two disks -/

/-- At each place of two disks the same is seen of an entry, and its outline at least. -/
structure Agree (view : Entry → Entry) (fs other : FileSystem) : Prop where
  outline_eq : ∀ {entry entry'}, view entry = view entry' → entry.outline = entry'.outline
  entries : ∀ place, (other.entry? place).map view = (fs.entry? place).map view

def seen (view : Entry → Entry) (found : Except FileProblem (Place × Option Entry)) :
    Except FileProblem (Place × Option Entry) :=
  found.map fun found => (found.1, found.2.map view)

variable {view : Entry → Entry} {fs other : FileSystem}

theorem Agree.entry?_none (h : Agree view fs other) {place : Place}
    (hentry : fs.entry? place = none) : other.entry? place = none := by
  have hseen := h.entries place
  rw [hentry] at hseen
  exact Option.map_eq_none_iff.mp hseen

theorem Agree.entry?_some (h : Agree view fs other) {place : Place} {entry : Entry}
    (hentry : fs.entry? place = some entry) :
    ∃ entry', other.entry? place = some entry' ∧ entry'.outline = entry.outline := by
  have hseen := h.entries place
  rw [hentry] at hseen
  obtain ⟨entry', hother, hview⟩ := Option.map_eq_some_iff.mp hseen
  exact ⟨entry', hother, h.outline_eq hview⟩

theorem Agree.entry?_directory (h : Agree view fs other) {place : Place}
    (hentry : fs.entry? place = some .directory) : other.entry? place = some .directory := by
  obtain ⟨entry', hother, houtline⟩ := h.entry?_some hentry
  rw [hother, Entry.outline_eq_directory.mp houtline]

theorem Agree.entry?_link (h : Agree view fs other) {place : Place} {target : String}
    (hentry : fs.entry? place = some (.link target)) :
    other.entry? place = some (.link target) := by
  obtain ⟨entry', hother, houtline⟩ := h.entry?_some hentry
  rw [hother, Entry.outline_eq_link.mp houtline]

/-- A lookup ends in the same place, where the same is seen. -/
theorem Agree.walk (h : Agree view fs other) (followLast : Bool) (links : Nat) (here : Place)
    (components : List String) :
    seen view (other.walk followLast links here components) =
      seen view (fs.walk followLast links here components) := by
  -- on the lookup on the one disk; on the other one each step takes the same branch
  fun_induction FileSystem.walk fs followLast links here components with
  | case1 _ here =>
    rw [FileSystem.walk]
    exact congrArg (fun entry => Except.ok (here, entry)) (h.entries here)
  | case2 _ _ _ _ hhere =>
    rw [FileSystem.walk, h.entry?_none hhere]
  | case3 _ _ _ _ _ _ hhere =>
    obtain ⟨entry', hother, houtline⟩ := h.entry?_some hhere
    obtain ⟨content, rfl⟩ := Entry.outline_eq_file.mp houtline
    rw [FileSystem.walk, hother]
  | case4 _ _ _ _ _ hhere =>
    rw [FileSystem.walk, h.entry?_link hhere]
  | case5 links here name rest hfolder hskip ih =>
    rw [walk_skip (h.entry?_directory hfolder) hskip, ih]
  | case6 links here rest hfolder _ ih =>
    rw [walk_parent (h.entry?_directory hfolder), ih]
  | case7 links here name rest hfolder _ _ hlong =>
    rw [walk_of_long_name (h.entry?_directory hfolder) hlong]
  | case8 links here name hfolder hskip hparent hshort place hentry =>
    rw [walk_absent (h.entry?_directory hfolder) hskip hparent hshort (h.entry?_none hentry),
      if_pos rfl]
  | case9 links here name rest hfolder hskip hparent hshort place hentry hrest =>
    rw [walk_absent (h.entry?_directory hfolder) hskip hparent hshort (h.entry?_none hentry),
      if_neg hrest]
  | case10 links here name rest hfolder hskip hparent hshort place target hentry hlast =>
    obtain ⟨rfl, hfollow⟩ := hlast
    obtain rfl : followLast = false := by simpa using hfollow
    rw [walk_last_link (h.entry?_directory hfolder) hskip hparent hshort (h.entry?_link hentry)]
  | case11 here name rest hfolder hskip hparent hshort place target hentry hgoes =>
    rw [walk_too_many_links (h.entry?_directory hfolder) hskip hparent hshort
      (h.entry?_link hentry) hgoes]
  | case12 here name rest hfolder hskip hparent hshort place hgoes links hentry =>
    rw [walk_link (h.entry?_directory hfolder) hskip hparent hshort (h.entry?_link hentry) hgoes,
      if_pos rfl]
  | case13 here name rest hfolder hskip hparent hshort place target hentry hgoes links hne ih =>
    rw [walk_link (h.entry?_directory hfolder) hskip hparent hshort (h.entry?_link hentry) hgoes,
      if_neg hne]
    exact ih
  | case14 links here name rest hfolder hskip hparent hshort place entry hlink hentry ih =>
    obtain ⟨entry', hother, houtline⟩ := h.entry?_some hentry
    have hnolink : ∀ target, entry' = .link target → False := fun target heq =>
      hlink target (Entry.outline_eq_link.mp (houtline.symm.trans (Entry.outline_eq_link.mpr heq)))
    rw [walk_down (h.entry?_directory hfolder) hskip hparent hshort hother hnolink, ih]

theorem Agree.locate (h : Agree view fs other) (path : String)
    (hfolder : other.workingFolder = fs.workingFolder ∨ (Path.ofString path).isAbsolute = true)
    (followLast : Bool) :
    seen view (other.locate followLast path) = seen view (fs.locate followLast path) := by
  have hstart : (if (Path.ofString path).isAbsolute then [] else
      Text.splitSlash other.workingFolder) =
      if (Path.ofString path).isAbsolute then [] else Text.splitSlash fs.workingFolder := by
    rcases hfolder with hfolder | habsolute
    · rw [hfolder]
    · rw [if_pos habsolute, if_pos habsolute]
  unfold FileSystem.locate
  rw [hstart]
  split
  · rfl
  · split
    · rfl
    · split
      · rfl
      · exact h.walk followLast maxLinks [] _

theorem status_seen (view : Entry → Entry) (fs : FileSystem) (path : String) :
    (fs.status path).map view =
      match seen view (fs.locate true path) with
      | .error problem => .error problem
      | .ok (_, none) => .error .missing
      | .ok (_, some entry) => .ok entry := by
  unfold status
  rcases fs.locate true path with _ | ⟨_, _ | _⟩ <;> rfl

theorem linkStatus_seen (view : Entry → Entry) (fs : FileSystem) (path : String) :
    (fs.linkStatus path).map view =
      match seen view (fs.locate false path) with
      | .error problem => .error problem
      | .ok (_, none) => .error .missing
      | .ok (_, some entry) => .ok entry := by
  unfold linkStatus
  rcases fs.locate false path with _ | ⟨_, _ | _⟩ <;> rfl

section

variable (h : Agree view fs other) (path : String)
  (hfolder : other.workingFolder = fs.workingFolder ∨ (Path.ofString path).isAbsolute = true)
include h hfolder

theorem Agree.status : (other.status path).map view = (fs.status path).map view := by
  rw [status_seen, status_seen, h.locate path hfolder]

theorem Agree.linkStatus : (other.linkStatus path).map view = (fs.linkStatus path).map view := by
  rw [linkStatus_seen, linkStatus_seen, h.locate path hfolder]

end

/-! ### Real paths on two disks -/

/-- Two disks have the same links, as far as paths of some kind lead. -/
def SameLinks (kind : Path → Prop) (fs other : FileSystem) : Prop :=
  ∀ path, kind path → (other.linkStatus path.toString).map Entry.outline =
    (fs.linkStatus path.toString).map Entry.outline

variable {kind : Path → Prop} {path : Path}

theorem SameLinks.error (h : SameLinks kind fs other) (hpath : kind path) {problem : FileProblem} :
    other.linkStatus path.toString = .error problem ↔
      fs.linkStatus path.toString = .error problem := by
  rw [← Outcome.map_eq_error, h path hpath, Outcome.map_eq_error]

theorem SameLinks.link (h : SameLinks kind fs other) (hpath : kind path) {target : String} :
    other.linkStatus path.toString = .ok (.link target) ↔
      fs.linkStatus path.toString = .ok (.link target) := by
  have hoffered : ∀ status : Except FileProblem Entry,
      status.map Entry.outline = .ok (.link target) ↔ status = .ok (.link target) := by
    intro status
    rw [Outcome.map_eq_ok]
    constructor
    · rintro ⟨entry, rfl, houtline⟩
      rw [Entry.outline_eq_link.mp houtline]
    · rintro rfl
      exact ⟨_, rfl, rfl⟩
  rw [← hoffered, h path hpath, hoffered]

/-- Where the links are the same, a search takes the same way. -/
theorem Kept.followReal_eq (hkept : Kept kind) (hlinks : SameLinks kind fs other) {fuel : Nat}
    {components : List String} {followed : Followed} (hpath : kind path)
    (hcomponents : NoSlashes components) (hfollowed : LeadsTo kind followed) :
    other.followReal fuel path components followed =
      fs.followReal fuel path components followed := by
  fun_induction FileSystem.followReal fs fuel path components followed with
  | case1 => rfl
  | case2 => rfl
  | case3 _ _ _ _ _ hskip ih =>
    rw [followReal_skip hskip]
    exact ih hpath (List.forall_mem_cons.mp hcomponents).2 hfollowed
  | case4 _ _ _ _ _ ih =>
    rw [followReal_parent]
    exact ih (hkept.parent hpath) (List.forall_mem_cons.mp hcomponents).2 hfollowed
  | case5 fuel path name rest followed hproper hparent next hstatus =>
    have hnext := hkept.next hpath (List.forall_mem_cons.mp hcomponents).1 hproper
    exact followReal_nul hproper hparent ((hlinks.error hnext).mpr hstatus)
  | case6 fuel path name rest followed hproper hparent next target hstatus known hknown ih =>
    obtain ⟨hname, hrest⟩ := List.forall_mem_cons.mp hcomponents
    have hlink := (hlinks.link (hkept.next hpath hname hproper)).mpr hstatus
    rw [followReal_known hproper hparent hlink hknown]
    exact ih (hfollowed.of_lookup hknown) hrest hfollowed
  | case7 fuel path name rest followed hproper hparent next target hstatus hloop =>
    have hnext := hkept.next hpath (List.forall_mem_cons.mp hcomponents).1 hproper
    exact followReal_loop hproper hparent ((hlinks.link hnext).mpr hstatus) hloop
  | case8 fuel path name rest followed hproper hparent next target hstatus hnew _ start
      ihTarget ihRest =>
    obtain ⟨hname, hrest⟩ := List.forall_mem_cons.mp hcomponents
    have hlink := (hlinks.link (hkept.next hpath hname hproper)).mpr hstatus
    rw [followReal_link hproper hparent hlink hnew]
    have hstart := hkept.start hpath target
    rw [ihTarget hstart (noSlashes_splitSlash target) (hfollowed.unsettled _)]
    cases htarget : fs.followReal fuel start (Text.splitSlash target) ((next, none) :: followed) with
    | error problem => rfl
    | ok found =>
      obtain ⟨reached, settled, known⟩ := found
      obtain ⟨hreached, hknown⟩ := hkept.followReal htarget hstart (noSlashes_splitSlash target)
        (hfollowed.unsettled _)
      cases settled with
      | true => exact ihRest reached known hreached hrest (hknown.settled hreached)
      | false => rfl
  | case9 fuel path name rest followed hproper hparent next hnul hlink ih =>
    obtain ⟨hname, hrest⟩ := List.forall_mem_cons.mp hcomponents
    have hnext := hkept.next hpath hname hproper
    rw [followReal_past hproper hparent (fun h => hnul ((hlinks.error hnext).mp h))
      fun target h => hlink target ((hlinks.link hnext).mp h)]
    exact ih hnext hrest hfollowed

/-- A search for a real path is the same on two disks, as long as it keeps to paths of some kind. -/
structure SameSearch (kind : Path → Prop) (fs other : FileSystem) : Prop where
  kept : Kept kind
  links : SameLinks kind fs other
  fuel : ∀ text, other.realPathFuel text = fs.realPathFuel text
  absolute : ∀ path, kind path → other.absoluteText path = fs.absoluteText path

theorem SameSearch.realPath_eq (h : SameSearch kind fs other)
    (hstart : path.isAbsolute = true ∨ kind ⟨.relative, []⟩) :
    other.realPath path = fs.realPath path := by
  have hkind : kind (if path.isAbsolute then ⟨.root, []⟩ else ⟨.relative, []⟩) := by
    split
    · exact h.kept.root
    · next hrelative => exact hstart.resolve_left hrelative
  have hnone : LeadsTo kind [] := fun _ _ hmem => absurd hmem List.not_mem_nil
  unfold realPath
  dsimp only
  rw [h.fuel, h.kept.followReal_eq h.links hkind (noSlashes_splitSlash _) hnone]
  cases hfollow : fs.followReal (fs.realPathFuel path.toString)
      (if path.isAbsolute then ⟨.root, []⟩ else ⟨.relative, []⟩)
      (Text.splitSlash path.toString) [] with
  | error problem => rfl
  | ok found =>
    have hreached := (h.kept.followReal hfollow hkind (noSlashes_splitSlash _) hnone).1
    exact congrArg Except.ok (h.absolute _ hreached)

theorem SameSearch.resolve_eq (h : SameSearch kind fs other)
    (hstart : path.isAbsolute = true ∨ kind ⟨.relative, []⟩)
    (hstatus : ∀ real, fs.realPath path = .ok real →
      (other.status real.toString).map Entry.outline =
        (fs.status real.toString).map Entry.outline) :
    other.resolve path = fs.resolve path := by
  simp only [resolve, h.realPath_eq hstart]
  cases hreal : fs.realPath path with
  | error problem => rfl
  | ok real =>
    have hsame := hstatus real hreal
    dsimp only
    cases hfound : fs.status real.toString with
    | error problem =>
      rw [hfound] at hsame
      rw [Outcome.map_eq_error.mp hsame]
    | ok entry =>
      rw [hfound] at hsame
      obtain ⟨entry', hother, -⟩ := Outcome.map_eq_ok.mp hsame
      rw [hother]

/-! ### The same but for the contents of files -/

/-- Two disks with the same folders, links and names. -/
structure SameShape (fs other : FileSystem) : Prop where
  agree : Agree Entry.outline fs other
  folder : other.workingFolder = fs.workingFolder
  fuel : ∀ text, other.realPathFuel text = fs.realPathFuel text

theorem kept_any : Kept fun _ => True :=
  ⟨trivial, fun _ => trivial, fun _ _ _ => trivial, fun _ _ => trivial⟩

theorem SameShape.sameSearch (h : SameShape fs other) : SameSearch (fun _ => True) fs other where
  kept := kept_any
  links _ _ := h.agree.linkStatus _ (Or.inl h.folder)
  fuel := h.fuel
  absolute path _ := by rw [absoluteText, absoluteText, absolute, absolute, h.folder]

/-- Where a path leads does not depend on the contents of files. -/
theorem SameShape.resolve_eq (h : SameShape fs other) (path : Path) :
    other.resolve path = fs.resolve path :=
  h.sameSearch.resolve_eq (Or.inr trivial) fun _ _ => h.agree.status _ (Or.inl h.folder)

/-- A question that does not look into files has the same answer. -/
theorem SameShape.ask_eq (h : SameShape fs other) {test : Entry → Bool}
    (htest : ∀ entry, test entry.outline = test entry) (path : Path) :
    other.ask test path = fs.ask test path := by
  have hstatus := h.agree.status path.toString (Or.inl h.folder)
  cases hfound : fs.status path.toString with
  | error problem =>
    rw [hfound] at hstatus
    rw [ask_of_status_error hfound, ask_of_status_error (Outcome.map_eq_error.mp hstatus)]
  | ok entry =>
    rw [hfound] at hstatus
    obtain ⟨entry', hother, houtline⟩ := Outcome.map_eq_ok.mp hstatus
    rw [ask_of_status_ok hfound, ask_of_status_ok hother, ← htest entry', houtline, htest]

theorem realPathFuel_outline (fs : FileSystem) (path : String) :
    fs.outline.realPathFuel path = fs.realPathFuel path := by
  unfold realPathFuel outline
  rw [List.foldl_map]
  congr 1
  funext bound entry
  obtain ⟨place, entry⟩ := entry
  cases entry <;> rfl

theorem sameShape_of_outline (h : fs.outline = other.outline) : SameShape fs other where
  agree := ⟨id, fun place => by rw [← entry?_outline, ← entry?_outline, h]⟩
  folder := (congrArg workingFolder h).symm
  fuel text := by rw [← realPathFuel_outline, ← h, realPathFuel_outline]

theorem resolve_eq_of_outline (h : fs.outline = other.outline) (path : Path) :
    fs.resolve path = other.resolve path :=
  ((sameShape_of_outline h).resolve_eq path).symm

end FileSystem

end ProductionClosure

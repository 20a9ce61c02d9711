import Mathlib
import ProductionClosure.Proofs.Config.Loading
import ProductionClosure.Proofs.FileSystem.LinkFree

/-!
Where the settings file is found. The folders above one another are numbered from the real path of
the start upwards; at the root the numbers go on without end, and the root stays the folder. The
file is found in the first of these folders that has one, as long as the number is below the depth
of the search. What is searched depends on the real path of the start alone, and searching again
from a folder in between finds the same file, as long as that folder is its own real path.
-/

namespace ProductionClosure.Config

def above (folder : Path) (steps : Nat) : Path := Path.parent^[steps] folder

def candidate (folder : Path) (steps : Nat) : Path := above folder steps / Path.ofString fileName

def Regular (files : FileSystem) (path : Path) : Prop :=
  ∃ content readable, files.status path.toString = .ok (.file content readable)

/-- The first folder with a settings file is so many steps above another one. -/
structure Nearest (files : FileSystem) (folder : Path) (steps : Nat) : Prop where
  regular : Regular files (candidate folder steps)
  first : ∀ fewer < steps, ¬ Regular files (candidate folder fewer)

/-- The disk answers whether there are settings files in that many folders. -/
def Answered (files : FileSystem) (folder : Path) (count : Nat) : Prop :=
  ∀ steps < count, files.status (candidate folder steps).toString ≠ .error .nameTooLong

variable {files : FileSystem} {folder start top : Path} {steps depth count : Nat}

/-! ### Folders above one another -/

theorem above_succ (folder : Path) (steps : Nat) :
    above folder (steps + 1) = above folder.parent steps :=
  Function.iterate_succ_apply _ _ _

theorem candidate_succ (folder : Path) (steps : Nat) :
    candidate folder (steps + 1) = candidate folder.parent steps := by
  rw [candidate, above_succ]
  rfl

theorem candidate_of_root (h : folder.parent = folder) (steps : Nat) :
    candidate folder steps = candidate folder 0 := by
  rw [candidate, above, Function.iterate_fixed h]
  rfl

theorem candidate_above (folder : Path) (first more : Nat) :
    candidate (above folder first) more = candidate folder (more + first) := by
  rw [candidate, candidate, above, above, above, Function.iterate_add_apply]

theorem Nearest.above {first : Nat} (h : Nearest files folder (steps + first)) :
    Nearest files (above folder first) steps where
  regular := by
    rw [candidate_above]
    exact h.regular
  first fewer hfewer := by
    rw [candidate_above]
    exact h.first _ (by omega)

theorem Answered.above {first : Nat} (h : Answered files folder (count + first)) :
    Answered files (above folder first) count := by
  intro steps hsteps
  rw [candidate_above]
  exact h _ (by omega)

theorem Answered.mono {fewer : Nat} (h : Answered files folder count) (hfewer : fewer ≤ count) :
    Answered files folder fewer :=
  fun steps hsteps => h steps (Nat.lt_of_lt_of_le hsteps hfewer)

/-- What is known up to the root is known of all numbers. -/
theorem Answered.of_root (h : Answered files folder (steps + 1))
    (hroot : (Config.above folder steps).parent = Config.above folder steps) (count : Nat) :
    Answered files folder count := by
  intro more _
  by_cases hmore : more ≤ steps
  · exact h more (by omega)
  · have hbeyond : candidate folder more = candidate folder steps := by
      have hnumber : more = (more - steps) + steps := by omega
      rw [hnumber, ← candidate_above, candidate_of_root hroot, candidate_above, Nat.zero_add]
    rw [hbeyond]
    exact h steps (Nat.lt_succ_self steps)

theorem Nearest.parent (h : Nearest files folder (steps + 1)) :
    Nearest files folder.parent steps :=
  h.above

/-- Some folder has a settings file, so one of them is the first. -/
theorem exists_nearest (h : ∃ steps < count, Regular files (candidate folder steps)) :
    ∃ steps < count, Nearest files folder steps := by
  classical
  obtain ⟨some, hsome, hregular⟩ := h
  have hex : ∃ steps, Regular files (candidate folder steps) := ⟨some, hregular⟩
  exact ⟨Nat.find hex, Nat.lt_of_le_of_lt (Nat.find_min' hex hregular) hsome, Nat.find_spec hex,
    fun fewer hfewer => Nat.find_min hex hfewer⟩

/-! ### The search -/

theorem isFile?_of_regular {path : Path} (h : Regular files path) :
    files.isFile? path = .ok true := by
  obtain ⟨content, readable, hstatus⟩ := h
  exact FileSystem.ask_eq_true_iff.mpr ⟨_, hstatus, rfl⟩

theorem isFile?_of_not_regular {path : Path}
    (hanswered : files.status path.toString ≠ .error .nameTooLong)
    (h : ¬ Regular files path) : files.isFile? path = .ok false := by
  cases hask : files.isFile? path with
  | error problem => exact absurd (FileSystem.ask_eq_error_iff.mp hask).2 hanswered
  | ok answer =>
    cases answer with
    | false => rfl
    | true =>
      obtain ⟨entry, hstatus, htest⟩ := FileSystem.ask_eq_true_iff.mp hask
      cases entry with
      | file content readable => exact absurd ⟨content, readable, hstatus⟩ h
      | directory | link => cases htest

theorem findUpward_of_regular (h : Regular files (candidate folder 0)) :
    findUpward files (depth + 1) folder = .ok (some (candidate folder 0)) := by
  have hanswer : FileSystem.answer files.isFile? (folder / Path.ofString fileName) = .ok true :=
    answer_of_ok (isFile?_of_regular h)
  rw [findUpward, hanswer]
  rfl

theorem findUpward_of_not_regular (hanswered : Answered files folder (count + 1))
    (h : ¬ Regular files (candidate folder 0)) :
    findUpward files (depth + 1) folder =
      if folder.parent = folder then .ok none else findUpward files depth folder.parent := by
  have hanswer : FileSystem.answer files.isFile? (folder / Path.ofString fileName) = .ok false :=
    answer_of_ok (isFile?_of_not_regular (hanswered 0 (Nat.succ_pos count)) h)
  rw [findUpward, hanswer]
  rfl

/-- The search finds the first file, if it is near enough. -/
theorem findUpward_of_nearest (hanswered : Answered files folder steps) (hsteps : steps < depth)
    (h : Nearest files folder steps) :
    findUpward files depth folder = .ok (some (candidate folder steps)) := by
  obtain ⟨depth, rfl⟩ : ∃ fewer, depth = fewer + 1 := ⟨depth - 1, by omega⟩
  induction steps generalizing folder depth with
  | zero => exact findUpward_of_regular h.regular
  | succ steps ih =>
    have hfirst : ¬ Regular files (candidate folder 0) := h.first 0 (Nat.succ_pos steps)
    have hmoves : ¬ folder.parent = folder := by
      intro hroot
      refine hfirst ?_
      rw [← candidate_of_root hroot (steps + 1)]
      exact h.regular
    obtain ⟨depth, rfl⟩ : ∃ fewer, depth = fewer + 1 := ⟨depth - 1, by omega⟩
    rw [findUpward_of_not_regular hanswered hfirst, if_neg hmoves, candidate_succ]
    exact ih hanswered.above h.parent depth (by omega)

/-- Without a file in the folders that are searched the search finds none. -/
theorem findUpward_eq_none (hanswered : Answered files folder depth)
    (h : ∀ steps < depth, ¬ Regular files (candidate folder steps)) :
    findUpward files depth folder = .ok none := by
  induction depth generalizing folder with
  | zero => rfl
  | succ depth ih =>
    rw [findUpward_of_not_regular hanswered (h 0 (Nat.succ_pos depth))]
    split
    · rfl
    · refine ih hanswered.above fun steps hsteps => ?_
      rw [← candidate_succ]
      exact h (steps + 1) (by omega)

theorem find_eq_findUpward (h : files.resolve start = .ok top) :
    find files start = findUpward files searchDepth top := by
  rw [find, FileSystem.resolved, h]
  rfl

theorem linkFree_above (h : files.LinkFree top) (steps : Nat) :
    files.LinkFree (above top steps) := by
  induction steps with
  | zero => exact h
  | succ steps ih =>
    rw [above, Function.iterate_succ_apply']
    exact ih.parent

/-- The file that is found is the first one in the folders from the real path of the start upwards,
and none is found when the folders that are searched have none. So the answer depends on the real
path alone. From every folder between it and the file the answer is the same, if the real path is
free of links; the real path of an absolute start is, unless a link on the way to it leads back to
itself. -/
theorem find_nearest (htop : files.resolve start = .ok top)
    (hanswered : Answered files top searchDepth) :
    (∀ file, find files start = .ok (some file) ↔
      ∃ steps < searchDepth, Nearest files top steps ∧ file = candidate top steps) ∧
    (find files start = .ok none ↔
      ∀ steps < searchDepth, ¬ Regular files (candidate top steps)) ∧
    (∀ other, files.resolve other = .ok top → find files other = find files start) ∧
    (files.LinkFree top → ∀ steps < searchDepth, Nearest files top steps → ∀ fewer ≤ steps,
      find files (above top fewer) = .ok (some (candidate top steps))) ∧
    (files.Settles start → files.LinkFree top) := by
  have hfind := find_eq_findUpward htop
  have hnearest : ∀ steps < searchDepth, Nearest files top steps →
      find files start = .ok (some (candidate top steps)) :=
    fun steps hsteps h =>
      hfind.trans (findUpward_of_nearest (hanswered.mono hsteps.le) hsteps h)
  have hnone : (∀ steps < searchDepth, ¬ Regular files (candidate top steps)) →
      find files start = .ok none :=
    fun h => hfind.trans (findUpward_eq_none hanswered h)
  -- one of the two always applies, so each also holds the other way round
  have hcases : (∃ steps < searchDepth, Nearest files top steps) ∨
      ∀ steps < searchDepth, ¬ Regular files (candidate top steps) := by
    by_cases hsome : ∃ steps < searchDepth, Regular files (candidate top steps)
    · exact Or.inl (exists_nearest hsome)
    · exact Or.inr fun steps hsteps h => hsome ⟨steps, hsteps, h⟩
  refine ⟨fun file => ⟨fun h => ?_, ?_⟩, ⟨fun h => ?_, hnone⟩, ?_, ?_, fun h => h.linkFree htop⟩
  · rcases hcases with ⟨steps, hsteps, hfirst⟩ | hno
    · rw [hnearest steps hsteps hfirst] at h
      cases h
      exact ⟨steps, hsteps, hfirst, rfl⟩
    · rw [hnone hno] at h
      cases h
  · rintro ⟨steps, hsteps, hfirst, rfl⟩
    exact hnearest steps hsteps hfirst
  · rcases hcases with ⟨steps, hsteps, hfirst⟩ | hno
    · rw [hnearest steps hsteps hfirst] at h
      cases h
    · exact hno
  · intro other hother
    rw [hfind, find_eq_findUpward hother]
  · intro hfree steps hsteps hfirst fewer hfewer
    obtain ⟨more, rfl⟩ : ∃ more, steps = more + fewer := ⟨steps - fewer, by omega⟩
    rw [find_eq_findUpward (linkFree_above hfree fewer).resolve_eq, ← candidate_above]
    exact findUpward_of_nearest (hanswered.mono hsteps.le).above (by omega) hfirst.above

def linkedFolder : FileSystem where
  entries := [(["s"], .link "w/a"), (["w"], .directory), (["w", "a"], .directory),
    (["prodeps.yml"], .file [] true)]
  workingFolder := "/"

theorem resolve_linkedFolder : linkedFolder.resolve ⟨.root, ["s"]⟩ = .ok ⟨.root, ["w", "a"]⟩ := by
  cbv

theorem settles_linkedFolder : linkedFolder.Settles ⟨.root, ["s"]⟩ :=
  ⟨rfl, ⟨.root, ["w", "a"]⟩,
    [(⟨.root, ["s"]⟩, some ⟨.root, ["w", "a"]⟩), (⟨.root, ["s"]⟩, none)], by cbv⟩

theorem status_linkedFolder :
    linkedFolder.status (candidate ⟨.root, ["w", "a"]⟩ 0).toString = .error .missing ∧
      linkedFolder.status (candidate ⟨.root, ["w", "a"]⟩ 1).toString = .error .missing ∧
      linkedFolder.status (candidate ⟨.root, ["w", "a"]⟩ 2).toString = .ok (.file [] true) := by
  refine ⟨?_, ?_, ?_⟩ <;> cbv

theorem not_regular_of_missing {path : Path} (h : files.status path.toString = .error .missing) :
    ¬ Regular files path := by
  rintro ⟨content, readable, hfile⟩
  rw [h] at hfile
  cases hfile

theorem answered_linkedFolder (count : Nat) : Answered linkedFolder ⟨.root, ["w", "a"]⟩ count := by
  obtain ⟨hfirst, hsecond, hthird⟩ := status_linkedFolder
  refine Answered.of_root (fun steps hsteps => ?_) (show Path.parent _ = above _ 2 from rfl) count
  interval_cases steps
  · rw [hfirst]
    decide
  · rw [hsecond]
    decide
  · rw [hthird]
    decide

theorem nearest_linkedFolder : Nearest linkedFolder ⟨.root, ["w", "a"]⟩ 2 := by
  obtain ⟨hfirst, hsecond, hthird⟩ := status_linkedFolder
  refine ⟨⟨_, _, hthird⟩, fun fewer hfewer => ?_⟩
  interval_cases fewer
  · exact not_regular_of_missing hfirst
  · exact not_regular_of_missing hsecond

/-- From the link, from the folder that it leads to and from the one above the file at the root is
found. -/
theorem find_from_linked_folder :
    find linkedFolder ⟨.root, ["s"]⟩ = .ok (some ⟨.root, ["prodeps.yml"]⟩) ∧
      find linkedFolder ⟨.root, ["w", "a"]⟩ = .ok (some ⟨.root, ["prodeps.yml"]⟩) ∧
      find linkedFolder ⟨.root, ["w"]⟩ = .ok (some ⟨.root, ["prodeps.yml"]⟩) := by
  have hdepth : 2 < searchDepth := by decide
  obtain ⟨hfound, -, -, hagain, hfree⟩ :=
    find_nearest resolve_linkedFolder (answered_linkedFolder searchDepth)
  have hchain := hagain (hfree settles_linkedFolder) 2 hdepth nearest_linkedFolder
  refine ⟨(hfound _).mpr ⟨2, hdepth, nearest_linkedFolder, rfl⟩, ?_, ?_⟩
  · exact hchain 0 (by decide)
  · exact hchain 1 (by decide)

/-! ### A real path that is none -/

/-- A link that leads back to itself in front of a double slash, and another link by the name behind
the slashes. -/
def loopedFolder : FileSystem where
  entries := [(["loop"], .link "loop//x"), (["x"], .link "y/z"), (["y"], .directory),
    (["y", "z"], .directory), (["y", "prodeps.yml"], .file [] true),
    (["prodeps.yml"], .file [] true)]
  workingFolder := "/"

theorem resolve_loopedFolder : loopedFolder.resolve ⟨.root, ["loop"]⟩ = .ok ⟨.root, ["x"]⟩ := by
  cbv

theorem status_loopedFolder :
    loopedFolder.status (candidate ⟨.root, ["x"]⟩ 0).toString = .error .missing ∧
      loopedFolder.status (candidate ⟨.root, ["x"]⟩ 1).toString = .ok (.file [] true) := by
  refine ⟨?_, ?_⟩ <;> cbv

/-- From the looping link the file at the root is found. But the folder that is taken for the real
path of that link is a link itself, and a search from this folder passes another one with a file. -/
theorem find_from_looped_folder :
    ¬ ∀ (files : FileSystem) (start top : Path), files.resolve start = .ok top →
      Answered files top searchDepth → ∀ steps < searchDepth, Nearest files top steps →
        ∀ fewer ≤ steps, find files (above top fewer) = .ok (some (candidate top steps)) := by
  intro hagain
  obtain ⟨hfirst, hsecond⟩ := status_loopedFolder
  have hanswered : Answered loopedFolder ⟨.root, ["x"]⟩ searchDepth := by
    refine Answered.of_root (fun steps hsteps => ?_) (show Path.parent _ = above _ 1 from rfl) _
    interval_cases steps
    · rw [hfirst]
      decide
    · rw [hsecond]
      decide
  have hnearest : Nearest loopedFolder ⟨.root, ["x"]⟩ 1 := by
    refine ⟨⟨_, _, hsecond⟩, fun fewer hfewer => ?_⟩
    obtain rfl := Nat.lt_one_iff.mp hfewer
    exact not_regular_of_missing hfirst
  have hfind : find loopedFolder ⟨.root, ["x"]⟩ = .ok (some ⟨.root, ["y", "prodeps.yml"]⟩) := by
    cbv
  have hfound := hagain _ _ _ resolve_loopedFolder hanswered 1 (by decide) hnearest 0 (by decide)
  have hsame : Path.mk .root ["y", "prodeps.yml"] = candidate ⟨.root, ["x"]⟩ 1 :=
    Option.some.inj (Except.ok.inj (hfind.symm.trans hfound))
  exact absurd hsame (by decide)

end ProductionClosure.Config

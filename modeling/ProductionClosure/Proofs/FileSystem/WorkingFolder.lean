import ProductionClosure.Proofs.FileSystem.Outline

/-!
What does not depend on the working folder. An absolute path is looked up from the root, its real
path is searched for from the root, and all that is met on the way is absolute again.
-/

namespace ProductionClosure

theorem Path.isAbsolute_ofString_toString {path : Path} (h : path.isAbsolute = true) :
    (Path.ofString path.toString).isAbsolute = true := by
  obtain ⟨anchor, segments⟩ := path
  cases anchor with
  | relative => cases h
  | root => exact Path.isAbsolute_of_slash _
  | doubleRoot =>
    show (Path.ofString ("/" ++ "/" ++ _)).isAbsolute = true
    rw [String.append_assoc]
    exact Path.isAbsolute_of_slash _

theorem Path.isAbsolute_div {path more : Path} (h : path.isAbsolute = true) :
    (path / more).isAbsolute = true := by
  show (Path.join path more).isAbsolute = true
  unfold Path.join
  split
  · next hmore => exact hmore
  · exact h

namespace FileSystem

def inFolder (fs : FileSystem) (folder : String) : FileSystem := { fs with workingFolder := folder }

variable {fs : FileSystem} {folder : String} {path : Path}

/-- The real path of a path is absolute, if the working folder is. -/
theorem isAbsolute_realPath {real : Path}
    (hfolder : (Path.ofString fs.workingFolder).isAbsolute = true)
    (h : fs.realPath path = .ok real) : real.isAbsolute = true := by
  obtain ⟨⟨reached, settled, known⟩, -, hreal⟩ := Outcome.bind_eq_ok.mp h
  obtain rfl := Except.ok.inj hreal
  exact Path.isAbsolute_div hfolder

theorem isAbsolute_realPath_of_isAbsolute {real : Path} (hpath : path.isAbsolute = true)
    (h : fs.realPath path = .ok real) : real.isAbsolute = true := by
  obtain ⟨⟨reached, settled, known⟩, hfollow, hreal⟩ := Outcome.bind_eq_ok.mp h
  rw [if_pos hpath] at hfollow
  have hreached : reached.isAbsolute = true :=
    (kept_absolute.followReal hfollow rfl (noSlashes_splitSlash _)
      fun _ _ hmem => absurd hmem List.not_mem_nil).1
  obtain rfl := Except.ok.inj hreal
  show (Path.join _ reached).isAbsolute = true
  rw [Path.join, if_pos hreached]
  exact hreached

theorem realPath_of_resolve {real : Path} (h : fs.resolve path = .ok real) :
    fs.realPath path = .ok real := by
  unfold resolve at h
  split at h
  · cases h
  · next hreal =>
    split at h
    · cases h
    · cases h
      exact hreal

theorem agree_inFolder (fs : FileSystem) (folder : String) : Agree id fs (fs.inFolder folder) :=
  ⟨congrArg Entry.outline, fun _ => rfl⟩

section

variable (h : path.isAbsolute = true)
include h

theorem status_inFolder :
    (fs.inFolder folder).status path.toString = fs.status path.toString := by
  have hstatus := (fs.agree_inFolder folder).status _
    (Or.inr (Path.isAbsolute_ofString_toString h))
  rwa [Except.map_id] at hstatus

theorem linkStatus_inFolder :
    (fs.inFolder folder).linkStatus path.toString = fs.linkStatus path.toString := by
  have hstatus := (fs.agree_inFolder folder).linkStatus _
    (Or.inr (Path.isAbsolute_ofString_toString h))
  rwa [Except.map_id] at hstatus

end

theorem sameSearch_inFolder (fs : FileSystem) (folder : String) :
    SameSearch (fun path => path.isAbsolute = true) fs (fs.inFolder folder) where
  kept := kept_absolute
  links path hpath := by rw [linkStatus_inFolder hpath]
  fuel _ := rfl
  absolute path hpath := by
    have hjoin : ∀ base : Path, base / path = path := fun base => if_pos hpath
    rw [absoluteText, absoluteText, absolute, absolute, hjoin, hjoin]

theorem resolve_inFolder (h : path.isAbsolute = true) :
    (fs.inFolder folder).resolve path = fs.resolve path :=
  (fs.sameSearch_inFolder folder).resolve_eq (Or.inl h) fun real hreal => by
    rw [status_inFolder (isAbsolute_realPath_of_isAbsolute h hreal)]

end FileSystem

end ProductionClosure

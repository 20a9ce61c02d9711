import ProductionClosure.Proofs.FileSystem.Lookup

/-!
Real paths are written as paths are: whatever links are followed, and however their targets are
spelled, no segment of a real path is empty or a dot or holds a slash. So the texts of real paths
tell them apart.
-/

namespace ProductionClosure.FileSystem

def NoSlashes (components : List String) : Prop :=
  ∀ component ∈ components, '/' ∉ component.toList

def LeadsTo (kind : Path → Prop) (followed : Followed) : Prop :=
  ∀ link known, (link, some known) ∈ followed → kind known

variable {fs : FileSystem} {path : Path} {components : List String} {followed : Followed}

theorem noSlashes_splitSlash (s : String) : NoSlashes (Text.splitSlash s) :=
  fun _ hcomponent => Text.no_slash_of_mem_splitSlash hcomponent

section

variable {kind : Path → Prop} {link : Path}

theorem LeadsTo.unsettled (h : LeadsTo kind followed) (link : Path) :
    LeadsTo kind ((link, none) :: followed) := by
  intro other known hmem
  rcases List.mem_cons.mp hmem with heq | hmem
  · cases heq
  · exact h other known hmem

theorem LeadsTo.settled (h : LeadsTo kind followed) {reached : Path} (hreached : kind reached) :
    LeadsTo kind ((link, some reached) :: followed) := by
  intro other known hmem
  rcases List.mem_cons.mp hmem with heq | hmem
  · cases heq
    exact hreached
  · exact h other known hmem

theorem LeadsTo.of_lookup (h : LeadsTo kind followed) {known : Path}
    (hlookup : followed.lookup link = some (some known)) : kind known := by
  obtain ⟨before, after, rfl, -⟩ := List.lookup_eq_some_iff.mp hlookup
  exact h link known (List.mem_append_right before List.mem_cons_self)

end

/-! ### Steps -/

section

variable {name : String} {rest : List String} {fuel : Nat}

theorem followReal_skip (hskip : name = "" ∨ name = ".") :
    fs.followReal (fuel + 1) path (name :: rest) followed =
      fs.followReal fuel path rest followed := by
  rw [followReal, if_pos hskip]

theorem followReal_parent :
    fs.followReal (fuel + 1) path (".." :: rest) followed =
      fs.followReal fuel (realParent path) rest followed := by
  rw [followReal, if_neg (by decide), if_pos rfl]

variable (hproper : ¬ (name = "" ∨ name = ".")) (hparent : ¬ name = "..")
include hproper hparent

theorem followReal_nul
    (hnul : fs.linkStatus (Path.mk path.anchor (path.segments ++ [name])).toString =
      .error .nulCharacter) :
    fs.followReal (fuel + 1) path (name :: rest) followed = .error .nulCharacter := by
  rw [followReal, if_neg hproper, if_neg hparent]
  dsimp only
  rw [hnul]

/-- A search goes on past a name that is no link. -/
theorem followReal_past
    (hnul : fs.linkStatus (Path.mk path.anchor (path.segments ++ [name])).toString ≠
      .error .nulCharacter)
    (hlink : ∀ target, fs.linkStatus (Path.mk path.anchor (path.segments ++ [name])).toString ≠
      .ok (.link target)) :
    fs.followReal (fuel + 1) path (name :: rest) followed =
      fs.followReal fuel { path with segments := path.segments ++ [name] } rest followed := by
  rw [followReal, if_neg hproper, if_neg hparent]
  dsimp only
  split
  · next hstatus => exact absurd hstatus hnul
  · next target hstatus => exact absurd hstatus (hlink target)
  · rfl

variable {target : String}
  (hlink : fs.linkStatus (Path.mk path.anchor (path.segments ++ [name])).toString =
    .ok (.link target))
include hlink

theorem followReal_known {known : Path}
    (hknown : followed.lookup (Path.mk path.anchor (path.segments ++ [name])) =
      some (some known)) :
    fs.followReal (fuel + 1) path (name :: rest) followed =
      fs.followReal fuel known rest followed := by
  rw [followReal, if_neg hproper, if_neg hparent]
  simp only [hlink, hknown]

theorem followReal_loop
    (hloop : followed.lookup (Path.mk path.anchor (path.segments ++ [name])) = some none) :
    fs.followReal (fuel + 1) path (name :: rest) followed =
      .ok (attach (Path.mk path.anchor (path.segments ++ [name])) rest, false, followed) := by
  rw [followReal, if_neg hproper, if_neg hparent]
  simp only [hlink, hloop]

/-- The target of a link is followed first, then what is left of the path behind it. -/
theorem followReal_link
    (hnew : followed.lookup (Path.mk path.anchor (path.segments ++ [name])) = none) :
    fs.followReal (fuel + 1) path (name :: rest) followed =
      fs.followReal fuel (if (Path.ofString target).isAbsolute then ⟨.root, []⟩ else path)
          (Text.splitSlash target)
          ((Path.mk path.anchor (path.segments ++ [name]), none) :: followed) >>= fun found =>
        if found.2.1 then
          fs.followReal fuel found.1 rest
            ((Path.mk path.anchor (path.segments ++ [name]), some found.1) :: found.2.2)
        else .ok (attach found.1 rest, false, found.2.2) := by
  rw [followReal, if_neg hproper, if_neg hparent]
  simp only [hlink, hnew]
  rfl

end

/-! ### What a search keeps to -/

/-- A kind of paths that a search for a real path does not leave. -/
structure Kept (kind : Path → Prop) : Prop where
  root : kind ⟨.root, []⟩
  parent : ∀ {path}, kind path → kind (realParent path)
  next : ∀ {path name}, kind path → '/' ∉ name.toList → ¬ (name = "" ∨ name = ".") →
    kind { path with segments := path.segments ++ [name] }
  attached : ∀ {path components}, kind path → NoSlashes components →
    kind (attach path components)

/-- The target of a link is followed from the root or from the folder of the link. -/
theorem Kept.start {kind : Path → Prop} (hkept : Kept kind) (hpath : kind path) (target : String) :
    kind (if (Path.ofString target).isAbsolute then ⟨.root, []⟩ else path) := by
  split
  · exact hkept.root
  · exact hpath

/-- Following components keeps to a kind of paths, and so do the links that are then known. -/
theorem Kept.followReal {kind : Path → Prop} (hkept : Kept kind) {fuel : Nat}
    {result : Path × Bool × Followed}
    (h : fs.followReal fuel path components followed = .ok result)
    (hpath : kind path) (hcomponents : NoSlashes components) (hfollowed : LeadsTo kind followed) :
    kind result.1 ∧ LeadsTo kind result.2.2 := by
  fun_induction FileSystem.followReal fs fuel path components followed generalizing result with
  | case1 =>
    cases h
    exact ⟨hkept.attached hpath hcomponents, hfollowed⟩
  | case2 =>
    cases h
    exact ⟨hpath, hfollowed⟩
  | case3 =>
    rename_i ih
    exact ih h hpath (List.forall_mem_cons.mp hcomponents).2 hfollowed
  | case4 =>
    rename_i ih
    exact ih h (hkept.parent hpath) (List.forall_mem_cons.mp hcomponents).2 hfollowed
  | case5 => cases h
  | case6 =>
    rename_i hknown ih
    exact ih h (hfollowed.of_lookup hknown) (List.forall_mem_cons.mp hcomponents).2 hfollowed
  | case7 =>
    rename_i hproper _ _ _ _ _
    cases h
    obtain ⟨hname, hrest⟩ := List.forall_mem_cons.mp hcomponents
    exact ⟨hkept.attached (hkept.next hpath hname hproper) hrest, hfollowed⟩
  | case8 =>
    rename_i target _ _ _ start ihTarget ihRest
    -- the target of a link is followed first, then what is left of the path behind it
    obtain ⟨⟨reached, settled, known⟩, htarget, hdone⟩ := Outcome.bind_eq_ok.mp h
    obtain ⟨hreached, hknown⟩ := ihTarget htarget (hkept.start hpath target)
      (noSlashes_splitSlash target) (hfollowed.unsettled _)
    have hrest := (List.forall_mem_cons.mp hcomponents).2
    cases settled with
    | true => exact ihRest reached known hdone hreached hrest (hknown.settled hreached)
    | false =>
      cases hdone
      exact ⟨hkept.attached hreached hrest, hknown⟩
  | case9 =>
    rename_i hproper _ _ _ _ ih
    obtain ⟨hname, hrest⟩ := List.forall_mem_cons.mp hcomponents
    exact ih h (hkept.next hpath hname hproper) hrest hfollowed

theorem named_realParent (h : Path.Named path.segments) :
    Path.Named (realParent path).segments := by
  unfold realParent
  split
  · split
    · exact h
    · exact Path.named_parent
  · exact h.append Path.named_parent
  · exact h.of_subset (List.dropLast_subset _)

theorem named_attach (h : Path.Named path.segments) (hcomponents : NoSlashes components) :
    Path.Named (attach path components).segments := by
  unfold attach
  split
  · exact Path.named_ofString _
  · refine h.append ?_
    intro segment hsegment
    obtain ⟨hmem, hproper⟩ := List.mem_filter.mp hsegment
    exact ⟨hproper, hcomponents segment hmem⟩

/-- A search keeps to proper segments. -/
theorem kept_named : Kept fun path => Path.Named path.segments where
  root := fun _ hsegment => absurd hsegment List.not_mem_nil
  parent := named_realParent
  next h hslash hproper := h.append fun segment hsegment => by
    obtain rfl := List.mem_singleton.mp hsegment
    exact ⟨Path.isSegment_eq_true.mpr (not_or.mp hproper), hslash⟩
  attached := named_attach

theorem isAbsolute_realParent (h : path.isAbsolute = true) :
    (realParent path).isAbsolute = true := by
  unfold realParent
  split
  · rw [if_pos h]
    exact h
  · exact h
  · exact h

theorem isAbsolute_attach (h : path.isAbsolute = true) (components : List String) :
    (attach path components).isAbsolute = true := by
  unfold attach
  split
  · rw [String.intercalate_cons_cons, String.empty_append]
    exact Path.isAbsolute_of_slash _
  · exact h

/-- A search that begins at the root keeps to absolute paths. -/
theorem kept_absolute : Kept fun path => path.isAbsolute = true where
  root := rfl
  parent := isAbsolute_realParent
  next h _ _ := h
  attached h _ := isAbsolute_attach h _

/-- The segments of a real path are proper ones. -/
theorem named_realPath {real : Path} (h : fs.realPath path = .ok real) :
    Path.Named real.segments := by
  obtain ⟨⟨reached, settled, known⟩, hfollow, hreal⟩ := Outcome.bind_eq_ok.mp h
  have hstart : Path.Named
      (if path.isAbsolute then (⟨.root, []⟩ : Path) else ⟨.relative, []⟩).segments := by
    split <;> exact fun segment hsegment => absurd hsegment List.not_mem_nil
  have hreached := (kept_named.followReal hfollow hstart (noSlashes_splitSlash _)
    fun _ _ hmem => absurd hmem List.not_mem_nil).1
  obtain rfl := Except.ok.inj hreal
  refine Path.Named.collapse ?_
  show Path.Named (Path.join _ _).segments
  unfold Path.join
  split
  · exact hreached
  · exact (Path.named_ofString _).append hreached

end ProductionClosure.FileSystem

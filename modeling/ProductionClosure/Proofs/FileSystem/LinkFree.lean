import ProductionClosure.Proofs.FileSystem.RealPath
import ProductionClosure.Proofs.Path.Collapse

/-!
Paths that are real already. A path is free of links when it starts at the root and nothing on the
way to it is a link; then it is its own real path, and so is each folder above it. The search for
the real path of an absolute path comes to such a path, unless it meets a link that leads back to
itself.
-/

namespace ProductionClosure.FileSystem

/-- A path on which there is no link to follow. -/
structure LinkFree (fs : FileSystem) (path : Path) : Prop where
  anchor : path.anchor = .root
  named : Path.Named path.segments
  noParent : ".." ∉ path.segments
  noNul : ∀ lead, lead <+: path.segments →
    fs.linkStatus (Path.mk .root lead).toString ≠ .error .nulCharacter
  noLink : ∀ lead, lead <+: path.segments → ∀ target,
    fs.linkStatus (Path.mk .root lead).toString ≠ .ok (.link target)

variable {fs : FileSystem} {path : Path} {segments : List String}

theorem LinkFree.of_prefix {lead : List String} (h : fs.LinkFree path)
    (hlead : lead <+: path.segments) : fs.LinkFree ⟨.root, lead⟩ where
  anchor := rfl
  named := h.named.of_subset hlead.subset
  noParent hmem := h.noParent (hlead.subset hmem)
  noNul _ hshorter := h.noNul _ (hshorter.trans hlead)
  noLink _ hshorter := h.noLink _ (hshorter.trans hlead)

theorem LinkFree.eq_mk (h : fs.LinkFree path) : path = ⟨.root, path.segments⟩ := by
  obtain ⟨anchor, segments⟩ := path
  obtain rfl : anchor = .root := h.anchor
  rfl

theorem LinkFree.parent (h : fs.LinkFree path) : fs.LinkFree path.parent := by
  have hparent : path.parent = ⟨.root, path.segments.dropLast⟩ := by
    rw [Path.parent, h.anchor]
  rw [hparent]
  exact h.of_prefix (List.dropLast_prefix _)

/-! ### Following what has no links -/

theorem followReal_of_linkFree {lead rest : List String} {fuel : Nat} {followed : Followed}
    (h : fs.LinkFree ⟨.root, lead ++ rest⟩) (hfuel : rest.length < fuel) :
    fs.followReal fuel ⟨.root, lead⟩ rest followed =
      .ok (⟨.root, lead ++ rest⟩, true, followed) := by
  induction rest generalizing lead fuel with
  | nil =>
    obtain ⟨fuel, rfl⟩ : ∃ fewer, fuel = fewer + 1 := ⟨fuel - 1, by simp at hfuel; omega⟩
    rw [followReal, List.append_nil]
  | cons name rest ih =>
    obtain ⟨fuel, rfl⟩ : ∃ fewer, fuel = fewer + 1 := ⟨fuel - 1, by simp at hfuel; omega⟩
    have hmoved : lead ++ name :: rest = (lead ++ [name]) ++ rest := by simp
    have hmem : name ∈ lead ++ name :: rest := List.mem_append_right lead List.mem_cons_self
    have hproper := not_or.mpr (Path.isSegment_eq_true.mp (h.named name hmem).1)
    have hparent : name ≠ ".." := fun heq => h.noParent (heq ▸ hmem)
    have hshorter : lead ++ [name] <+: lead ++ name :: rest := hmoved ▸ List.prefix_append _ _
    have hpast : fs.followReal (fuel + 1) ⟨.root, lead⟩ (name :: rest) followed =
        fs.followReal fuel ⟨.root, lead ++ [name]⟩ rest followed :=
      followReal_past hproper hparent (h.noNul _ hshorter) (h.noLink _ hshorter)
    rw [hpast, hmoved]
    exact ih (hmoved ▸ h) (show rest.length < fuel by simpa using hfuel)

/-- The pieces of a text are at most as many as its characters and one more. -/
theorem length_splitSlash_le (s : String) : (Text.splitSlash s).length ≤ s.length + 1 := by
  have hpieces : ∀ cs, (Text.pieces (· = '/') cs).length ≤ cs.length + 1 := by
    intro cs
    induction cs with
    | nil => simp [Text.pieces]
    | cons c rest ih =>
      rw [Text.pieces]
      split
      · simpa using ih
      · cases hcut : Text.pieces (· = '/') rest with
        | nil => simp [Text.pushFront]
        | cons piece more =>
          rw [hcut] at ih
          simp only [Text.pushFront, List.length_cons] at ih ⊢
          omega
  rw [Text.splitSlash, Text.split, List.length_map, ← String.length_toList]
  exact hpieces _

theorem length_lt_realPathFuel (fs : FileSystem) (text : String) :
    text.length + 1 < fs.realPathFuel text := by
  have hfold : ∀ {step : Nat → Place × Entry → Nat}, (∀ bound entry, bound ≤ step bound entry) →
      ∀ entries bound, bound ≤ List.foldl step bound entries := by
    intro step hstep entries
    induction entries with
    | nil => exact fun bound => Nat.le_refl bound
    | cons entry rest ih => exact fun bound => Nat.le_trans (hstep bound entry) (ih _)
  refine Nat.lt_of_lt_of_le (Nat.lt_succ_self _) (hfold ?_ fs.entries (text.length + 2))
  intro bound entry
  split
  · exact Nat.le_add_right _ _
  · exact Nat.le_refl bound

theorem splitSlash_toString (hnamed : Path.Named segments) (hne : segments ≠ []) :
    Text.splitSlash (Path.mk .root segments).toString = "" :: segments := by
  have htext := Text.splitSlash_append_slash (s := "") (by decide)
    (String.intercalate "/" segments)
  rw [Text.splitSlash_intercalate hne fun part hpart => (hnamed part hpart).2,
    String.empty_append] at htext
  rw [Path.toString_of_segments hne]
  exact htext

theorem LinkFree.absoluteText_eq (h : fs.LinkFree path) : fs.absoluteText path = path := by
  rw [h.eq_mk]
  have hjoin : fs.absolute ⟨.root, path.segments⟩ = ⟨.root, path.segments⟩ := rfl
  rw [absoluteText, hjoin, Path.normalized, Path.collapse_of_no_parent h.noParent]

/-- The search for the real path of a text passes over its leading slash. -/
theorem followReal_toString (h : fs.LinkFree path) :
    fs.followReal (fs.realPathFuel path.toString) ⟨.root, []⟩ (Text.splitSlash path.toString) [] =
      .ok (path, true, []) := by
  have hmk := h.eq_mk
  have hfuel := length_lt_realPathFuel fs path.toString
  by_cases hne : path.segments = []
  · rw [hne] at hmk
    have hroot : path.toString = "/" := by
      rw [hmk]
      decide
    have hpieces : Text.splitSlash "/" = ["", ""] := by decide
    rw [hroot] at hfuel ⊢
    obtain ⟨fuel, hsucc⟩ : ∃ fewer, fs.realPathFuel "/" = fewer + 3 :=
      ⟨fs.realPathFuel "/" - 3, by
        have : "/".length = 1 := rfl
        omega⟩
    rw [hpieces, hsucc, followReal, if_pos (Or.inl rfl), followReal, if_pos (Or.inl rfl),
      followReal, ← hmk]
  · have hpieces := splitSlash_toString h.named hne
    rw [← hmk] at hpieces
    have hlength := length_splitSlash_le path.toString
    obtain ⟨fuel, hsucc⟩ : ∃ fewer, fs.realPathFuel path.toString = fewer + 1 :=
      ⟨fs.realPathFuel path.toString - 1, by omega⟩
    rw [hpieces, List.length_cons] at hlength
    have hsegments : fs.followReal fuel ⟨.root, []⟩ path.segments [] =
        .ok (⟨.root, [] ++ path.segments⟩, true, []) :=
      followReal_of_linkFree (hmk ▸ h) (by omega)
    rw [hpieces, hsucc, followReal, if_pos (Or.inl rfl), hsegments, List.nil_append, ← hmk]

theorem LinkFree.isAbsolute (h : fs.LinkFree path) : path.isAbsolute = true := by
  rw [h.eq_mk]
  rfl

theorem LinkFree.realPath_eq (h : fs.LinkFree path) : fs.realPath path = .ok path := by
  unfold realPath
  rw [h.isAbsolute]
  show (fs.followReal _ ⟨.root, []⟩ _ _ >>= _) = _
  rw [followReal_toString h]
  exact congrArg Except.ok h.absoluteText_eq

/-! ### Looking up what has no links -/

/-- A lookup gets past all links when it comes to none: it would be the answer to a lookup that does
not follow its last name. -/
theorem not_tooManyLinks_of_walk {links : Nat} {here : Place} {components : List String}
    (h : ∀ lead, lead <+: components → ∀ place target,
      fs.walk false links here lead ≠ .ok (place, some (.link target))) :
    fs.walk true links here components ≠ .error .tooManyLinks := by
  have hlonger : ∀ {name : String} {lead rest : List String}, lead <+: rest →
      name :: lead <+: name :: rest := fun hlead => List.prefix_cons_inj _ |>.mpr hlead
  have hfirst : ∀ {name : String} {rest : List String}, [name] <+: name :: rest :=
    hlonger List.nil_prefix
  fun_induction walk fs true links here components with
  | case1 | case2 | case3 | case4 | case7 | case8 | case9 | case10 | case12 =>
    intro hwalk
    cases hwalk
  | case5 links here name rest hfolder hname ih =>
    refine ih fun lead hlead place target hwalk => ?_
    exact h _ (hlonger hlead) place target ((walk_skip hfolder hname).trans hwalk)
  | case6 links here rest hfolder _ ih =>
    refine ih fun lead hlead place target hwalk => ?_
    exact h _ (hlonger hlead) place target ((walk_parent hfolder).trans hwalk)
  | case11 here name rest hfolder hskip hparent hshort place target hlink =>
    exact absurd (walk_last_link hfolder hskip hparent hshort hlink) (h _ hfirst _ _)
  | case13 here name rest hfolder hskip hparent hshort place target hlink =>
    exact absurd (walk_last_link hfolder hskip hparent hshort hlink) (h _ hfirst _ _)
  | case14 links here name rest hfolder hskip hparent hshort place entry hlink hentry ih =>
    refine ih fun lead hlead place target hwalk => ?_
    exact h _ (hlonger hlead) place target
      ((walk_down hfolder hskip hparent hshort hentry hlink).trans hwalk)

theorem isAbsolute_toString (hne : segments ≠ []) :
    (Path.ofString (Path.mk .root segments).toString).isAbsolute = true := by
  rw [Path.toString_of_segments hne]
  exact Path.isAbsolute_of_slash _

/-- A path from the root is looked up segment by segment, if its text can be looked up at all. -/
theorem locate_toString {followLast : Bool} (hnamed : Path.Named segments) (hne : segments ≠ [])
    (hnul : (Path.mk .root segments).toString.contains '\x00' = false)
    (hshort : (Path.mk .root segments).toString.utf8ByteSize ≤ maxPathOctets) :
    fs.locate followLast (Path.mk .root segments).toString =
      fs.walk followLast maxLinks [] ("" :: segments) := by
  have hpieces := splitSlash_toString hnamed hne
  have hnonempty : (Path.mk .root segments).toString ≠ "" := by
    intro hempty
    rw [hempty] at hpieces
    have hlengths := congrArg List.length hpieces
    rw [show (Text.splitSlash "").length = 1 by decide, List.length_cons] at hlengths
    exact hne (List.length_eq_zero_iff.mp (by omega))
  rw [locate, hnul, if_neg (by simp), if_neg hnonempty, if_neg (Nat.not_lt.mpr hshort),
    isAbsolute_toString hne, hpieces]
  rfl

theorem utf8ByteSize_toString_le {lead : List String} (hlead : lead <+: segments)
    (hne : lead ≠ []) :
    (Path.mk .root lead).toString.utf8ByteSize ≤
      (Path.mk .root segments).toString.utf8ByteSize := by
  obtain ⟨rest, rfl⟩ := hlead
  by_cases hrest : rest = []
  · exact Nat.le_of_eq (by rw [hrest, List.append_nil])
  · rw [Path.toString_of_segments hne,
      Path.toString_of_segments (List.append_ne_nil_of_left_ne_nil hne rest),
      String.intercalate_append_of_ne_nil hne hrest]
    simp only [String.utf8ByteSize_append]
    omega

theorem contains_nul_eq_false (hnul : fs.linkStatus path.toString ≠ .error .nulCharacter) :
    path.toString.contains '\x00' = false := by
  refine Bool.eq_false_iff.mpr fun hcontains => hnul ?_
  rw [linkStatus, locate, if_pos hcontains]
  rfl

theorem locate_of_tooManyLinks {text : String} (h : fs.status text = .error .tooManyLinks) :
    fs.locate true text = .error .tooManyLinks ∧ text.utf8ByteSize ≤ maxPathOctets := by
  have hlocate : fs.locate true text = .error .tooManyLinks := by
    cases hfound : fs.locate true text with
    | error problem =>
      rw [status_of_locate_error hfound] at h
      cases h
      rfl
    | ok found =>
      obtain ⟨place, entry⟩ := found
      rw [status_of_locate_ok hfound] at h
      cases entry <;> cases h
  refine ⟨hlocate, Nat.not_lt.mp fun hlong => ?_⟩
  rw [locate, if_pos hlong] at hlocate
  split at hlocate
  · cases hlocate
  · split at hlocate <;> cases hlocate

theorem LinkFree.not_tooManyLinks (h : fs.LinkFree path) :
    fs.status path.toString ≠ .error .tooManyLinks := by
  rw [h.eq_mk]
  intro hstatus
  have hroot : fs.walk false maxLinks [] [] = .ok ([], some .directory) := by
    rw [walk]
    rfl
  have hrootSlash : fs.walk false maxLinks [] [""] = .ok ([], some .directory) :=
    (walk_skip rfl (Or.inl rfl)).trans hroot
  by_cases hne : path.segments = []
  · have htext : (Path.mk .root path.segments).toString = "/" := by
      rw [hne]
      decide
    rw [htext, status_root] at hstatus
    cases hstatus
  · obtain ⟨hlocate, hshort⟩ := locate_of_tooManyLinks hstatus
    have hnul : ∀ lead, lead <+: path.segments →
        (Path.mk .root lead).toString.contains '\x00' = false :=
      fun lead hlead => contains_nul_eq_false (h.noNul lead hlead)
    rw [locate_toString h.named hne (hnul _ List.prefix_rfl) hshort] at hlocate
    -- a link that is come across at the end of some beginning of the path is its link status
    refine not_tooManyLinks_of_walk (fun lead hlead place target hwalk => ?_) hlocate
    cases lead with
    | nil =>
      rw [hroot] at hwalk
      cases hwalk
    | cons name lead =>
      obtain ⟨rfl, hbelow⟩ := List.cons_prefix_cons.mp hlead
      by_cases hsome : lead = []
      · rw [hsome, hrootSlash] at hwalk
        cases hwalk
      · have hlookup : fs.locate false (Path.mk .root lead).toString =
            fs.walk false maxLinks [] ("" :: lead) :=
          locate_toString (h.named.of_subset hbelow.subset) hsome (hnul lead hbelow)
            (Nat.le_trans (utf8ByteSize_toString_le hbelow hsome) hshort)
        rw [← hlookup] at hwalk
        refine h.noLink lead hbelow target ?_
        rw [linkStatus, hwalk]
        rfl

/-- A path free of links is its own real path. -/
theorem LinkFree.resolve_eq (h : fs.LinkFree path) : fs.resolve path = .ok path := by
  have hstatus := h.not_tooManyLinks
  simp only [resolve, h.realPath_eq]

/-! ### Where searches end -/

variable {followed : Followed}

theorem linkFree_root (fs : FileSystem) : fs.LinkFree ⟨.root, []⟩ := by
  have hstatus : ∀ lead : List String, lead <+: [] →
      fs.linkStatus (Path.mk .root lead).toString = .ok .directory := by
    intro lead hlead
    have htext : (Path.mk .root []).toString = "/" := by decide
    rw [List.prefix_nil.mp hlead, htext, linkStatus, locate_root]
    rfl
  refine ⟨rfl, fun _ hmem => absurd hmem List.not_mem_nil, List.not_mem_nil, ?_, ?_⟩
  · intro lead hlead h
    rw [hstatus lead hlead] at h
    cases h
  · intro lead hlead target h
    rw [hstatus lead hlead] at h
    cases h

theorem LinkFree.realParent (h : fs.LinkFree path) : fs.LinkFree (realParent path) := by
  unfold FileSystem.realParent
  split
  · rw [if_pos h.isAbsolute]
    exact h
  · next hlast => exact absurd (List.mem_of_getLast? hlast) h.noParent
  · exact h.parent

/-- One more name that is no link leaves a path free of links. -/
theorem LinkFree.next {name : String} (h : fs.LinkFree path) (hslash : '/' ∉ name.toList)
    (hproper : ¬ (name = "" ∨ name = ".")) (hparent : ¬ name = "..")
    (hnul : fs.linkStatus (Path.mk path.anchor (path.segments ++ [name])).toString ≠
      .error .nulCharacter)
    (hlink : ∀ target, fs.linkStatus (Path.mk path.anchor (path.segments ++ [name])).toString ≠
      .ok (.link target)) : fs.LinkFree { path with segments := path.segments ++ [name] } := by
  rw [h.anchor] at hnul hlink
  refine ⟨h.anchor, ?_, ?_, ?_, ?_⟩
  · exact h.named.append fun segment hsegment => by
      obtain rfl := List.mem_singleton.mp hsegment
      exact ⟨Path.isSegment_eq_true.mpr (not_or.mp hproper), hslash⟩
  · rw [List.mem_append, List.mem_singleton]
    exact fun hmem => hmem.elim h.noParent fun heq => hparent heq.symm
  · intro lead hlead
    rcases List.prefix_concat_iff.mp hlead with rfl | hlead
    · exact hnul
    · exact h.noNul lead hlead
  · intro lead hlead
    rcases List.prefix_concat_iff.mp hlead with rfl | hlead
    · exact hlink
    · exact h.noLink lead hlead

/-- A search that settles comes to a path free of links, and so do all links that it followed. -/
theorem linkFree_of_followReal {fuel : Nat} {components : List String}
    {result : Path × Bool × Followed}
    (h : fs.followReal fuel path components followed = .ok result) (hsettled : result.2.1 = true)
    (hpath : fs.LinkFree path) (hcomponents : NoSlashes components)
    (hfollowed : LeadsTo fs.LinkFree followed) :
    fs.LinkFree result.1 ∧ LeadsTo fs.LinkFree result.2.2 := by
  fun_induction followReal fs fuel path components followed generalizing result with
  | case1 =>
    cases h
    cases hsettled
  | case2 =>
    cases h
    exact ⟨hpath, hfollowed⟩
  | case3 =>
    rename_i ih
    exact ih h hsettled hpath (List.forall_mem_cons.mp hcomponents).2 hfollowed
  | case4 =>
    rename_i ih
    exact ih h hsettled hpath.realParent (List.forall_mem_cons.mp hcomponents).2 hfollowed
  | case5 => cases h
  | case6 =>
    rename_i hknown ih
    exact ih h hsettled (hfollowed.of_lookup hknown) (List.forall_mem_cons.mp hcomponents).2
      hfollowed
  | case7 =>
    cases h
    cases hsettled
  | case8 =>
    rename_i path _ _ _ _ _ _ target _ _ _ start ihTarget ihRest
    -- the target of a link is followed first, then what is left of the path behind it
    have hstart : fs.LinkFree start := by
      show fs.LinkFree (if (Path.ofString target).isAbsolute then ⟨.root, []⟩ else path)
      split
      · exact fs.linkFree_root
      · exact hpath
    obtain ⟨⟨reached, settled, known⟩, htarget, hdone⟩ := Outcome.bind_eq_ok.mp h
    cases settled with
    | true =>
      obtain ⟨hreached, hknown⟩ :=
        ihTarget htarget rfl hstart (noSlashes_splitSlash target) (hfollowed.unsettled _)
      exact ihRest reached known hdone hsettled hreached (List.forall_mem_cons.mp hcomponents).2
        (hknown.settled hreached)
    | false =>
      cases hdone
      cases hsettled
  | case9 =>
    rename_i hproper hparent next hnul hlink ih
    obtain ⟨hname, hrest⟩ := List.forall_mem_cons.mp hcomponents
    exact ih h hsettled (hpath.next hname hproper hparent hnul hlink) hrest hfollowed

/-- The search for the real path of an absolute path meets no link that leads back to itself. -/
def Settles (fs : FileSystem) (path : Path) : Prop :=
  path.isAbsolute = true ∧ ∃ reached followed,
    fs.followReal (fs.realPathFuel path.toString) ⟨.root, []⟩ (Text.splitSlash path.toString) [] =
      .ok (reached, true, followed)

/-- Such a search yields a path free of links. -/
theorem Settles.linkFree {real : Path} (h : fs.Settles path) (hreal : fs.resolve path = .ok real) :
    fs.LinkFree real := by
  obtain ⟨habsolute, reached, followed, hfollow⟩ := h
  have hreached : fs.LinkFree reached :=
    (linkFree_of_followReal hfollow rfl fs.linkFree_root (noSlashes_splitSlash _)
      fun _ _ hmem => absurd hmem List.not_mem_nil).1
  have hpath : fs.realPath path = .ok reached := by
    unfold realPath
    rw [habsolute]
    show (fs.followReal _ ⟨.root, []⟩ _ _ >>= _) = _
    rw [hfollow]
    exact congrArg Except.ok hreached.absoluteText_eq
  unfold resolve at hreal
  rw [hpath] at hreal
  dsimp only at hreal
  split at hreal
  · cases hreal
  · cases hreal
    exact hreached

end ProductionClosure.FileSystem

import ProductionClosure.Proofs.FileSystem.Writing

/-!
Disks that grow. Where files are made and written to, folders and links stay as they are and files
keep what is in them. A lookup then ends where it ended before, or fails if it failed before: a new
file stands in no way that led anywhere. So the same file is opened as before, or none still.
-/

namespace ProductionClosure.FileSystem

variable {fs before after : FileSystem} {place here : Place} {path : String}

/-! ### What stays -/

/-- What becomes of an entry when files are made and written to. -/
inductive GrownEntry : Option Entry → Option Entry → Prop where
  | kept (entry : Option Entry) : GrownEntry entry entry
  | made (content : List UInt8) : GrownEntry none (some (.file content true))
  | written (content more : List UInt8) (readable : Bool) :
      GrownEntry (some (.file content readable)) (some (.file (content ++ more) readable))

namespace GrownEntry

theorem trans {first middle last : Option Entry} (h : GrownEntry first middle)
    (hmore : GrownEntry middle last) : GrownEntry first last := by
  cases h with
  | kept => exact hmore
  | made content =>
    cases hmore with
    | kept => exact .made content
    | written _ more => exact .made (content ++ more)
  | written content more readable =>
    cases hmore with
    | kept => exact .written content more readable
    | written _ rest =>
      rw [List.append_assoc]
      exact .written content (more ++ rest) readable

theorem of_file {content : List UInt8} {readable : Bool} {entry : Option Entry}
    (h : GrownEntry (some (.file content readable)) entry) :
    ∃ more, entry = some (.file (content ++ more) readable) := by
  cases h with
  | kept => exact ⟨[], by rw [List.append_nil]⟩
  | written _ more => exact ⟨more, rfl⟩

theorem directory_iff {first last : Option Entry} (h : GrownEntry first last) :
    last = some .directory ↔ first = some .directory := by
  cases h <;> simp

theorem link_iff {first last : Option Entry} (h : GrownEntry first last) (target : String) :
    last = some (.link target) ↔ first = some (.link target) := by
  cases h <;> simp

end GrownEntry

/-- A disk after files were made and written to, as far as lookups on the disk before lead. -/
structure Grown (before after : FileSystem) : Prop where
  folder : after.workingFolder = before.workingFolder
  entries : ∀ place, before.Open place → GrownEntry (before.entry? place) (after.entry? place)

theorem Grown.refl (fs : FileSystem) : Grown fs fs := ⟨rfl, fun _ _ => .kept _⟩

theorem Grown.directory_iff (h : Grown before after) (hopen : before.Open place) :
    after.entry? place = some .directory ↔ before.entry? place = some .directory :=
  (h.entries place hopen).directory_iff

theorem Grown.link_iff (h : Grown before after) (hopen : before.Open place) (target : String) :
    after.entry? place = some (.link target) ↔ before.entry? place = some (.link target) :=
  (h.entries place hopen).link_iff target

theorem Grown.entry?_file (h : Grown before after) (hopen : before.Open place)
    {content : List UInt8} {readable : Bool}
    (hentry : before.entry? place = some (.file content readable)) :
    ∃ more, after.entry? place = some (.file (content ++ more) readable) := by
  have hgrown := h.entries place hopen
  rw [hentry] at hgrown
  exact hgrown.of_file

theorem Grown.open (h : Grown before after) (hopen : before.Open place) : after.Open place := by
  intro above habove hne
  refine (h.directory_iff fun higher hhigher hother => ?_).mpr (hopen above habove hne)
  exact hopen higher (hhigher.trans habove) fun heq =>
    hne (habove.eq_of_length_le (heq ▸ hhigher.length_le))

theorem Grown.trans {middle : FileSystem} (h : Grown before middle) (hmore : Grown middle after) :
    Grown before after where
  folder := hmore.folder.trans h.folder
  entries place hopen := (h.entries place hopen).trans (hmore.entries place (h.open hopen))

/-! ### What makes a disk grow -/

/-- A file that is put over a file or where nothing stands lets the disk grow. -/
theorem grown_replace {content : List UInt8} {readable : Bool} (hne : place ≠ [])
    (hgrown : GrownEntry (fs.entry? place) (some (.file content readable))) :
    Grown fs (fs.replace place (.file content readable)) where
  folder := rfl
  entries other hother := by
    by_cases heq : other = place
    · rw [heq, entry?_replace_self hne]
      exact hgrown
    · have hoff : ¬ place <+: other := by
        intro hbelow
        rw [hother place hbelow (Ne.symm heq)] at hgrown
        cases hgrown
      rw [entry?_replace_off hoff]
      exact .kept _

theorem Opens.grown (h : Opens fs place after) : Grown fs after := by
  have hne := h.ne_root
  cases h with
  | there => exact .refl fs
  | made hnone => exact grown_replace hne (hnone ▸ .made [])

/-- A file in use: it can be read, and is still where it was opened. -/
def HasFile (fs : FileSystem) (place : Place) : Prop :=
  fs.Open place ∧ ∃ content, fs.entry? place = some (.file content true)

theorem HasFile.grown (h : fs.HasFile place) (hgrown : Grown fs after) : after.HasFile place := by
  obtain ⟨hopen, content, hentry⟩ := h
  obtain ⟨more, hmore⟩ := hgrown.entry?_file hopen hentry
  exact ⟨hgrown.open hopen, content ++ more, hmore⟩

theorem hasFile_of_openForAppending (h : fs.openForAppending path = .ok (place, after)) :
    Grown fs after ∧ after.HasFile place := by
  obtain ⟨found, hlocate, hopens⟩ := openForAppending_eq_ok.mp h
  have hopen := (open_of_locate hlocate).1
  exact ⟨hopens.grown, hopens.grown.open hopen, Opens.entry? hopens⟩

/-- What is added to a file stands behind what is in it. -/
theorem append_of_file (hopen : fs.Open place) {content : List UInt8} {readable : Bool}
    (hentry : fs.entry? place = some (.file content readable)) (octets : List UInt8) :
    Grown fs (fs.append place octets) ∧
      entry? (fs.append place octets) place = some (.file (content ++ octets) readable) := by
  have hne : place ≠ [] := by
    rintro rfl
    cases hentry
  have happend : fs.append place octets =
      fs.replace place (.file (content ++ octets) readable) := by
    rw [append, hentry]
    exact put_of_open hopen hne nofun
  rw [happend]
  exact ⟨grown_replace hne (hentry ▸ .written content octets readable), entry?_replace_self hne⟩

/-! ### Lookups on disks that have grown -/

def endOf (ending : Except FileProblem (Place × Option Entry)) : Option Place :=
  ending.toOption.map Prod.fst

section

variable {followLast : Bool} {links : Nat} {components : List String}

/-- Where no folder stands a lookup ends or fails. -/
theorem endOf_walk_off (h : fs.entry? here ≠ some .directory) :
    endOf (fs.walk followLast links here components) =
      if components = [] then some here else none := by
  cases components with
  | nil =>
    rw [FileSystem.walk]
    rfl
  | cons name rest =>
    rw [FileSystem.walk, if_neg (List.cons_ne_nil name rest)]
    split
    · rfl
    · rfl
    · rfl
    · next hfolder => exact absurd hfolder h

/-- A lookup goes no further than a place where neither a folder nor a link stood, whatever stands
there now. -/
theorem Grown.endOf_walk_leaf (h : Grown before after) (hopen : before.Open here)
    {name : String} {rest : List String} (hfolder : before.entry? here = some .directory)
    (hskip : ¬ (name = "" ∨ name = ".")) (hparent : ¬ name = "..")
    (hshort : ¬ maxNameOctets < name.utf8ByteSize)
    {found : Option Entry} (hfound : before.entry? (here ++ [name]) = found)
    (hdirectory : found ≠ some .directory) (hlink : ∀ target, found ≠ some (.link target)) :
    endOf (after.walk followLast links here (name :: rest)) =
      if rest = [] then some (here ++ [name]) else none := by
  have hfolder' := (h.directory_iff hopen).mpr hfolder
  have hbelow := hopen.below hfolder name
  subst hfound
  cases hentry : after.entry? (here ++ [name]) with
  | none =>
    rw [walk_absent hfolder' hskip hparent hshort hentry]
    split <;> rfl
  | some entry =>
    rw [walk_down hfolder' hskip hparent hshort hentry fun target heq =>
      hlink target ((h.link_iff hbelow target).mp (heq ▸ hentry))]
    exact endOf_walk_off ((h.directory_iff hbelow).not.mpr hdirectory)

theorem Grown.endOf_walk (h : Grown before after) (hopen : before.Open here) :
    endOf (after.walk followLast links here components) =
      endOf (before.walk followLast links here components) := by
  -- on the lookup on the disk before; where a file was made, no lookup went on
  fun_induction FileSystem.walk before followLast links here components with
  | case1 =>
    rw [FileSystem.walk]
    rfl
  | case2 _ _ _ _ hhere | case3 _ _ _ _ _ _ hhere | case4 _ _ _ _ _ hhere =>
    rw [endOf_walk_off ((h.directory_iff hopen).not.mpr (by simp [hhere])),
      if_neg (List.cons_ne_nil _ _)]
    rfl
  | case5 links here name rest hfolder hskip ih =>
    rw [walk_skip ((h.directory_iff hopen).mpr hfolder) hskip, ih hopen]
  | case6 links here rest hfolder _ ih =>
    rw [walk_parent ((h.directory_iff hopen).mpr hfolder), ih hopen.dropLast]
  | case7 links here name rest hfolder _ _ hlong =>
    rw [walk_of_long_name ((h.directory_iff hopen).mpr hfolder) hlong]
  | case8 links here name hfolder hskip hparent hshort place hentry =>
    rw [h.endOf_walk_leaf hopen hfolder hskip hparent hshort hentry (by simp) (by simp),
      if_pos rfl]
    rfl
  | case9 links here name rest hfolder hskip hparent hshort place hentry hrest =>
    rw [h.endOf_walk_leaf hopen hfolder hskip hparent hshort hentry (by simp) (by simp),
      if_neg hrest]
    rfl
  | case10 links here name rest hfolder hskip hparent hshort place target hentry hlast =>
    obtain ⟨rfl, hfollow⟩ := hlast
    obtain rfl : followLast = false := by simpa using hfollow
    rw [walk_last_link ((h.directory_iff hopen).mpr hfolder) hskip hparent hshort
      ((h.link_iff (hopen.below hfolder name) target).mpr hentry)]
  | case11 here name rest hfolder hskip hparent hshort place target hentry hgoes =>
    rw [walk_too_many_links ((h.directory_iff hopen).mpr hfolder) hskip hparent hshort
      ((h.link_iff (hopen.below hfolder name) target).mpr hentry) hgoes]
  | case12 here name rest hfolder hskip hparent hshort place hgoes links hentry =>
    rw [walk_link ((h.directory_iff hopen).mpr hfolder) hskip hparent hshort
      ((h.link_iff (hopen.below hfolder name) "").mpr hentry) hgoes, if_pos rfl]
  | case13 here name rest hfolder hskip hparent hshort place target hentry hgoes links hne ih =>
    rw [walk_link ((h.directory_iff hopen).mpr hfolder) hskip hparent hshort
      ((h.link_iff (hopen.below hfolder name) target).mpr hentry) hgoes, if_neg hne]
    refine ih ?_
    split
    · exact before.open_root
    · exact hopen
  | case14 links here name rest hfolder hskip hparent hshort place entry hlink hentry ih =>
    by_cases hdirectory : entry = .directory
    · have hbelow := hopen.below hfolder name
      rw [hdirectory] at hentry
      rw [walk_down ((h.directory_iff hopen).mpr hfolder) hskip hparent hshort
        ((h.directory_iff hbelow).mpr hentry) (by simp), ih hbelow]
    · rw [h.endOf_walk_leaf hopen hfolder hskip hparent hshort hentry (by simpa using hdirectory)
        (by simpa using hlink), endOf_walk_off (by simpa [hentry] using hdirectory)]

end

theorem Grown.endOf_locate (h : Grown before after) (followLast : Bool) (path : String) :
    endOf (after.locate followLast path) = endOf (before.locate followLast path) := by
  unfold FileSystem.locate
  rw [h.folder]
  split
  · rfl
  · split
    · rfl
    · split
      · rfl
      · exact h.endOf_walk before.open_root

theorem endOf_eq_some {ending : Except FileProblem (Place × Option Entry)} :
    endOf ending = some place ↔ ∃ found, ending = .ok (place, found) := by
  cases ending <;> simp [endOf, Except.toOption, Prod.ext_iff, eq_comm]

/-- Where a file is opened for writing: nothing stands there, or a file that may be used. -/
def Writable (entry : Option Entry) : Prop :=
  entry = none ∨ ∃ content, entry = some (.file content true)

theorem exists_opens_iff : (∃ after, Opens fs place after) ↔ Writable (fs.entry? place) := by
  constructor
  · rintro ⟨_, hthere | hnone⟩
    · exact Or.inr ⟨_, hthere⟩
    · exact Or.inl hnone
  · rintro (hnone | ⟨content, hthere⟩)
    · exact ⟨_, .made hnone⟩
    · exact ⟨_, .there hthere⟩

theorem GrownEntry.writable_iff {first last : Option Entry} (h : GrownEntry first last) :
    Writable last ↔ Writable first := by
  cases h with
  | kept => exact Iff.rfl
  | made content => exact ⟨fun _ => Or.inl rfl, fun _ => Or.inr ⟨content, rfl⟩⟩
  | written => simp [Writable]

theorem exists_openForAppending_iff :
    (∃ after, fs.openForAppending path = .ok (place, after)) ↔
      endOf (fs.locate true path) = some place ∧ Writable (fs.entry? place) := by
  simp only [openForAppending_eq_ok, endOf_eq_some, ← exists_opens_iff]
  constructor
  · rintro ⟨after, found, hlocate, hopens⟩
    exact ⟨⟨found, hlocate⟩, after, hopens⟩
  · rintro ⟨⟨found, hlocate⟩, after, hopens⟩
    exact ⟨after, found, hlocate, hopens⟩

/-- Whatever files were made and written to: the same file is opened, or none still. -/
theorem Grown.openForAppending_iff (h : Grown before after) :
    (∃ opened, after.openForAppending path = .ok (place, opened)) ↔
      ∃ opened, before.openForAppending path = .ok (place, opened) := by
  rw [exists_openForAppending_iff, exists_openForAppending_iff, h.endOf_locate]
  refine and_congr_right fun hend => ?_
  obtain ⟨found, hlocate⟩ := endOf_eq_some.mp hend
  exact (h.entries place (open_of_locate hlocate).1).writable_iff

end ProductionClosure.FileSystem

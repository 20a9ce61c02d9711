import ProductionClosure.Proofs.Hoisting.Versions
import ProductionClosure.Proofs.Resolution.BestEffort
import ProductionClosure.Proofs.StorePath.Grammar

/-!
How hoisting degrades. A path keeps its place in the list, and its link stands there if it is found;
a link that leads nowhere, around in a circle or through a file, and one with a NUL in its name,
count as not found. The one exception are lengths: the first link that is refused because something
in its way is too long ends the whole replacement.
-/

namespace ProductionClosure

inductive Replaced (files : FileSystem) (workspace : Path) (layout : StoreLayout) (path : String) :
    String → Prop where
  | outside (hlink : linkFor? workspace layout path = none) :
      Replaced files workspace layout path path
  | linked {link : Path} {entry : Entry} (hlink : linkFor? workspace layout path = some link)
      (hstatus : files.status link.toString = .ok entry) :
      Replaced files workspace layout path link.toString
  | absent {link : Path} {problem : FileProblem}
      (hlink : linkFor? workspace layout path = some link)
      (hstatus : files.status link.toString = .error problem) (hproblem : problem ≠ .nameTooLong) :
      Replaced files workspace layout path path

section

variable {files : FileSystem} {workspace link : Path} {layout : StoreLayout} {path text : String}

theorem found_of_status_ok {entry : Entry} (h : files.status link.toString = .ok entry) :
    files.found link = true := by
  rw [FileSystem.found, h]
  rfl

theorem not_found_of_status_error {problem : FileProblem}
    (h : files.status link.toString = .error problem) : files.found link = false := by
  rw [FileSystem.found, h]
  rfl

/-- A path is shown as what stands for it, if its link can be asked for. -/
theorem replaced_iff : Replaced files workspace layout path text ↔
    ¬ Unanswered files workspace layout path ∧ text = standIn files workspace layout path := by
  constructor
  · intro h
    cases h with
    | outside hlink =>
      refine ⟨?_, (standIn_of_no_link hlink).symm⟩
      rintro ⟨link, hother, -⟩
      rw [hlink] at hother
      cases hother
    | linked hlink hstatus =>
      have hfound := found_of_status_ok hstatus
      exact ⟨not_unanswered_of_found hlink hfound, (standIn_of_found hlink hfound).symm⟩
    | absent hlink hstatus hproblem =>
      have hfound := not_found_of_status_error hstatus
      refine ⟨?_, (standIn_of_not_found hlink hfound).symm⟩
      rintro ⟨other, hother, hlong⟩
      rw [hlink] at hother
      cases hother
      rw [hstatus, Except.error.injEq] at hlong
      exact hproblem hlong
  · rintro ⟨hanswered, rfl⟩
    cases hlink : linkFor? workspace layout path with
    | none =>
      rw [standIn_of_no_link hlink]
      exact .outside hlink
    | some link =>
      cases hstatus : files.status link.toString with
      | ok entry =>
        rw [standIn_of_found hlink (found_of_status_ok hstatus)]
        exact .linked hlink hstatus
      | error problem =>
        rw [standIn_of_not_found hlink (not_found_of_status_error hstatus)]
        refine .absent hlink hstatus ?_
        rintro rfl
        exact hanswered ⟨link, hlink, hstatus⟩

theorem forall₂_replaced_iff {paths shown : List String} :
    List.Forall₂ (Replaced files workspace layout) paths shown ↔
      (∀ path ∈ paths, ¬ Unanswered files workspace layout path) ∧
        shown = paths.map (standIn files workspace layout) := by
  induction paths generalizing shown with
  | nil => simp
  | cons path rest ih =>
    rw [List.forall₂_cons_left_iff]
    constructor
    · rintro ⟨text, others, htext, hothers, rfl⟩
      obtain ⟨hfirst, rfl⟩ := replaced_iff.mp htext
      obtain ⟨hrest, rfl⟩ := ih.mp hothers
      exact ⟨List.forall_mem_cons.mpr ⟨hfirst, hrest⟩, rfl⟩
    · rintro ⟨hanswered, rfl⟩
      obtain ⟨hfirst, hrest⟩ := List.forall_mem_cons.mp hanswered
      exact ⟨_, _, replaced_iff.mpr ⟨hfirst, rfl⟩, ih.mpr ⟨hrest, rfl⟩, rfl⟩

theorem FirstUnanswered.tooLong {paths : List String}
    (h : FirstUnanswered files workspace layout paths link) : files.TooLong link.toString := by
  induction h with
  | here _ hstatus => exact FileSystem.tooLong_of_status hstatus
  | behind _ _ ih => exact ih

end

/-- Each path is shown as itself or as its link, place by place, unless something in the way of a
link is too long; then the first such link is what the replacement fails for. -/
theorem hoist_degrades_unless_too_long (files : FileSystem) (workspace : String)
    (layout : StoreLayout) (paths : List String) :
    (∀ shown, (hoist files (Path.ofString workspace) layout paths).outcome = .ok shown ↔
      shown.length = paths.length ∧
        List.Forall₂ (Replaced files (Path.ofString workspace) layout) paths shown) ∧
    ∀ failure, (hoist files (Path.ofString workspace) layout paths).outcome = .error failure ↔
      ∃ link, FirstUnanswered files (Path.ofString workspace) layout paths link ∧
        files.TooLong link.toString ∧ failure = .file .nameTooLong link.toString := by
  constructor
  · intro shown
    rw [outcome_hoist_eq_ok, ← forall₂_replaced_iff]
    exact ⟨fun h => ⟨h.length_eq.symm, h⟩, And.right⟩
  · intro failure
    constructor
    · intro houtcome
      have hsome : ∃ path ∈ paths, Unanswered files (Path.ofString workspace) layout path := by
        by_contra hnone
        push Not at hnone
        rw [outcome_hoist_of_answered hnone] at houtcome
        cases houtcome
      obtain ⟨link, hfirst⟩ := exists_firstUnanswered hsome
      rw [hfirst.outcome_hoist] at houtcome
      cases houtcome
      exact ⟨link, hfirst, hfirst.tooLong, rfl⟩
    · rintro ⟨link, hfirst, -, rfl⟩
      exact hfirst.outcome_hoist

namespace Sample

/-- Links that lead nowhere and around in a circle, and a file in the place of a scope. -/
def brokenLinks : FileSystem where
  entries := [(["node_modules"], .directory), (["node_modules", "a"], .directory),
    (["node_modules", "dangling"], .link "gone"), (["node_modules", "loop"], .link "loop"),
    (["node_modules", "@file"], .file [] true)]
  workingFolder := "/"

def storePath (name : List String) : String :=
  String.intercalate "/" (["", "node_modules", ".pnpm", "p@1", "node_modules"] ++ name)

def topLink (name : List String) : Path := ⟨.root, "node_modules" :: name⟩

/-- A package name that makes a link as it stands. -/
structure PlainName (name : List String) : Prop where
  isName : StorePath.isName name = true
  plain : ∀ segment ∈ name, Path.isSegment segment = true ∧
    ∀ c ∈ segment.toList, StorePath.isSeparator c = false

namespace PlainName

variable {name : List String}

theorem no_slash (h : PlainName name) : ∀ segment ∈ name, '/' ∉ segment.toList := by
  intro segment hsegment hslash
  have hplain := (h.plain segment hsegment).2 '/' hslash
  revert hplain
  decide

theorem segments_storePath (h : PlainName name) :
    StorePath.segments (storePath name) =
      ["", "node_modules", ".pnpm", "p@1", "node_modules"] ++ name := by
  have hne := StorePath.ne_nil_of_isName h.isName
  have hlead : ∀ segment ∈ ["", "node_modules", ".pnpm", "p@1", "node_modules"],
      ∀ c ∈ segment.toList, StorePath.isSeparator c = false := by
    simp [StorePath.isSeparator]
  have hsplit : Text.split StorePath.isSeparator (storePath name) =
      ["", "node_modules", ".pnpm", "p@1", "node_modules"] ++ name ++ List.replicate 0 "" := by
    rw [List.replicate_zero, List.append_nil]
    refine Text.split_intercalate_slash rfl (List.cons_ne_nil _ _) ?_
    exact List.forall_mem_append.mpr ⟨hlead, fun segment hmem => (h.plain segment hmem).2⟩
  refine StorePath.segments_of_split ?_ hsplit
  rw [List.getLast?_append_of_ne_nil _ hne]
  intro hlast
  exact absurd (h.plain "" (List.mem_of_getLast? hlast)).1 (by decide)

theorem parts_storePath (h : PlainName name) :
    StorePath.Parts {} (StorePath.segments (storePath name)) [""] "p@1" name where
  eq := h.segments_storePath
  package_ne := by decide
  isName := h.isName
  first k hk := by
    obtain rfl : k = 0 := Nat.lt_one_iff.mp hk
    rintro ⟨_, _, -, -, heq⟩
    rw [h.segments_storePath] at heq
    exact absurd (List.cons.inj heq).1 (by decide)

theorem linkFor?_storePath (h : PlainName name) :
    linkFor? (Path.ofString "/") {} (storePath name) = some (topLink name) := by
  have hfilter : name.filter Path.isSegment = name :=
    List.filter_eq_self.mpr fun segment hmem => (h.plain segment hmem).1
  rw [linkFor?_of_parts h.parts_storePath, linkOf_eq _ h.no_slash, hfilter]
  rfl

end PlainName

theorem walk_top (name : List String) :
    brokenLinks.walk true FileSystem.maxLinks [] ("" :: "node_modules" :: name) =
      brokenLinks.walk true FileSystem.maxLinks ["node_modules"] name := by
  calc
    _ = brokenLinks.walk true FileSystem.maxLinks [] ("node_modules" :: name) := by
      conv_lhs => unfold FileSystem.walk
      rfl
    _ = _ := by
      conv_lhs => unfold FileSystem.walk
      rfl

/-- A lookup of a link gets as far as the folder of the links. -/
theorem locate_topLink {name : List String} (h : PlainName name)
    (hnul : '\x00' ∉ (topLink name).toString.toList)
    (hsize : (topLink name).toString.utf8ByteSize ≤ FileSystem.maxPathOctets) :
    brokenLinks.locate true (topLink name).toString =
      brokenLinks.walk true FileSystem.maxLinks ["node_modules"] name := by
  have htext : (topLink name).toString = "/" ++ String.intercalate "/" ("node_modules" :: name) :=
    Path.toString_of_segments (List.cons_ne_nil _ _)
  have hpieces : Text.splitSlash (topLink name).toString = "" :: "node_modules" :: name := by
    have hlead := Text.splitSlash_append_slash (s := "") (by decide)
      (String.intercalate "/" ("node_modules" :: name))
    have hnames : ∀ segment ∈ "node_modules" :: name, '/' ∉ segment.toList :=
      List.forall_mem_cons.mpr ⟨by decide, h.no_slash⟩
    rwa [Text.splitSlash_intercalate (List.cons_ne_nil _ _) hnames, String.empty_append,
      ← htext] at hlead
  have habsolute : (Path.ofString (topLink name).toString).isAbsolute = true := by
    rw [htext]
    exact Path.isAbsolute_of_slash _
  have hnone : (topLink name).toString.contains '\x00' = false := by
    rw [String.contains_char_eq]
    exact decide_eq_false hnul
  have hne : (topLink name).toString ≠ "" := by
    rw [htext]
    simp
  unfold FileSystem.locate
  rw [hnone, habsolute, hpieces, if_neg Bool.false_ne_true, if_neg hne,
    if_neg (Nat.not_lt_of_le hsize)]
  exact walk_top name

/-! ### Links that are there, and links that count as absent -/

theorem plainName_linked : PlainName ["a"] where
  isName := by simp [StorePath.isName]
  plain := by simp [Path.isSegment, StorePath.isSeparator]

theorem status_linked : brokenLinks.status (topLink ["a"]).toString = .ok .directory := by
  have hwalk : brokenLinks.walk true FileSystem.maxLinks ["node_modules"] ["a"] =
      .ok (["node_modules", "a"], some .directory) := by cbv
  exact FileSystem.status_of_locate_ok
    ((locate_topLink plainName_linked (by decide) (by decide)).trans hwalk)

/-- Names of packages whose links cannot be looked up, each for a reason of its own. -/
def brokenNames : List (List String) :=
  [["missing"], ["dangling"], ["loop"], ["@file", "e"], ["f\x00"]]

theorem plainName_of_broken {name : List String} (h : name ∈ brokenNames) : PlainName name := by
  simp only [brokenNames, List.mem_cons, List.not_mem_nil, or_false] at h
  rcases h with rfl | rfl | rfl | rfl | rfl
  all_goals exact
    ⟨by simp [StorePath.isName], by simp [Path.isSegment, StorePath.isSeparator]⟩

theorem status_of_broken {name : List String} (h : name ∈ brokenNames) :
    ∃ problem ≠ .nameTooLong, brokenLinks.status (topLink name).toString = .error problem := by
  have hplain := plainName_of_broken h
  simp only [brokenNames, List.mem_cons, List.not_mem_nil, or_false] at h
  rcases h with rfl | rfl | rfl | rfl | rfl
  · have hwalk : brokenLinks.walk true FileSystem.maxLinks ["node_modules"] ["missing"] =
        .ok (["node_modules", "missing"], none) := by cbv
    exact ⟨.missing, by decide, FileSystem.status_of_locate_ok
      ((locate_topLink hplain (by decide) (by decide)).trans hwalk)⟩
  · have hwalk : brokenLinks.walk true FileSystem.maxLinks ["node_modules"] ["dangling"] =
        .ok (["node_modules", "gone"], none) := by cbv
    exact ⟨.missing, by decide, FileSystem.status_of_locate_ok
      ((locate_topLink hplain (by decide) (by decide)).trans hwalk)⟩
  · have hwalk : brokenLinks.walk true FileSystem.maxLinks ["node_modules"] ["loop"] =
        .error .tooManyLinks := by cbv
    exact ⟨.tooManyLinks, by decide, FileSystem.status_of_locate_error
      ((locate_topLink hplain (by decide) (by decide)).trans hwalk)⟩
  · have hwalk : brokenLinks.walk true FileSystem.maxLinks ["node_modules"] ["@file", "e"] =
        .error .notDirectory := by cbv
    exact ⟨.notDirectory, by decide, FileSystem.status_of_locate_error
      ((locate_topLink hplain (by decide) (by decide)).trans hwalk)⟩
  · exact ⟨.nulCharacter, by decide, brokenLinks.status_of_nul (by decide)⟩

theorem replaced_of_broken {name : List String} (h : name ∈ brokenNames) :
    Replaced brokenLinks (Path.ofString "/") {} (storePath name) (storePath name) := by
  obtain ⟨problem, hproblem, hstatus⟩ := status_of_broken h
  exact .absent (plainName_of_broken h).linkFor?_storePath hstatus hproblem

/-! ### A link that cannot be asked for -/

theorem plainName_longName : PlainName [longName] := by
  have hchars : ∀ c ∈ longName.toList, c = 'x' := by
    intro c hc
    by_contra hne
    exact not_mem_longName hne hc
  refine ⟨?_, List.forall_mem_singleton.mpr ⟨?_, ?_⟩⟩
  · have hscope : longName.startsWith "@" = false := by
      rw [Bool.eq_false_iff]
      intro hstarts
      obtain ⟨scope, heq⟩ := StorePath.startsWith_at_iff.mp hstarts
      have hmem : '@' ∈ longName.toList := by
        rw [heq, String.toList_append]
        exact List.mem_append_left _ (by decide)
      exact absurd (hchars '@' hmem) (by decide)
    simp [StorePath.isName, hscope, longName_ne]
  · exact isSegment_longName
  · intro c hc
    rw [hchars c hc]
    decide

theorem status_longName :
    brokenLinks.status (topLink [longName]).toString = .error .nameTooLong := by
  have htext : (topLink [longName]).toString = "/node_modules/" ++ longName := by
    rw [Path.toString_of_segments (List.cons_ne_nil _ _)]
    show "/" ++ String.intercalate "/" ["node_modules", longName] = _
    rw [String.intercalate_cons_cons, String.intercalate_singleton, ← String.append_assoc,
      ← String.append_assoc]
    rfl
  have hnul : '\x00' ∉ (topLink [longName]).toString.toList := by
    rw [htext, String.toList_append, List.mem_append, not_or]
    exact ⟨by decide, not_mem_longName (by decide)⟩
  have hsize : (topLink [longName]).toString.utf8ByteSize ≤ FileSystem.maxPathOctets := by
    rw [htext, String.utf8ByteSize_append, size_longName]
    decide
  have hlong : FileSystem.maxNameOctets < longName.utf8ByteSize := by
    rw [size_longName]
    decide
  exact FileSystem.status_of_locate_error ((locate_topLink plainName_longName hnul hsize).trans
    (FileSystem.walk_of_long_name rfl hlong _ _ _))

/-- The link that is there can be asked for, the one behind it has a name too long. -/
theorem firstUnanswered_longName :
    FirstUnanswered brokenLinks (Path.ofString "/") {} [storePath ["a"], storePath [longName]]
      (topLink [longName]) :=
  .behind (not_unanswered_of_found plainName_linked.linkFor?_storePath
      (found_of_status_ok status_linked))
    (.here plainName_longName.linkFor?_storePath status_longName)

end Sample

/-- Broken links are passed over, whatever is wrong with them, but a name of 256 octets is not. -/
theorem broken_links_are_kept :
    (hoist Sample.brokenLinks (Path.ofString "/") {}
        (Sample.storePath ["a"] :: Sample.brokenNames.map Sample.storePath)).outcome =
      .ok ((Sample.topLink ["a"]).toString :: Sample.brokenNames.map Sample.storePath) ∧
    (hoist Sample.brokenLinks (Path.ofString "/") {}
        [Sample.storePath ["a"], Sample.storePath [Sample.longName]]).outcome =
      .error (.file .nameTooLong (Sample.topLink [Sample.longName]).toString) := by
  constructor
  · have hlinked := Replaced.linked Sample.plainName_linked.linkFor?_storePath Sample.status_linked
    have hbroken : List.Forall₂ (Replaced Sample.brokenLinks (Path.ofString "/") {})
        (Sample.brokenNames.map Sample.storePath) (Sample.brokenNames.map Sample.storePath) := by
      refine List.forall₂_same.mpr (List.forall_mem_map.mpr ?_)
      exact fun name => Sample.replaced_of_broken
    exact ((hoist_degrades_unless_too_long Sample.brokenLinks "/" {} _).1 _).mpr
      ⟨rfl, .cons hlinked hbroken⟩
  · have hfirst := Sample.firstUnanswered_longName
    exact ((hoist_degrades_unless_too_long Sample.brokenLinks "/" {} _).2 _).mpr
      ⟨_, hfirst, hfirst.tooLong, rfl⟩

/-- Not every list of paths is shown. -/
theorem hoisting_can_fail :
    ¬ ∀ (files : FileSystem) (workspace : String) (layout : StoreLayout) (paths : List String),
      ∃ shown, (hoist files (Path.ofString workspace) layout paths).outcome = .ok shown ∧
        shown.length = paths.length := by
  intro hshowsAll
  obtain ⟨shown, hshown, -⟩ := hshowsAll Sample.brokenLinks "/" {}
    [Sample.storePath ["a"], Sample.storePath [Sample.longName]]
  rw [Sample.firstUnanswered_longName.outcome_hoist] at hshown
  cases hshown

end ProductionClosure

import ProductionClosure.Proofs.Hoisting.Versions
import ProductionClosure.Proofs.StorePath.Grammar

/-!
From a store path to its link. Whatever leads to the store and however the path is spelled, the link
is the workspace as it is spelled, the link folder, and the package name behind it; the path is
replaced by the text of the link if the link leads to something, and it stays as it is otherwise.
Several paths are replaced one by one.
-/

namespace ProductionClosure

def hoistedLink (workspace : String) (layout : StoreLayout) (name : List String) : Path :=
  Path.ofString workspace / Path.ofString layout.linkFolder /
    Path.ofString (String.intercalate "/" name)

variable {files : FileSystem} {workspace : String} {layout : StoreLayout}
  {segments lead name : List String} {package path trailing : String}

/-- Going down name by name leads to the same link as the whole name. -/
theorem linkOf_eq_hoistedLink {first : String} {more : List String} (hfirst : first ≠ "")
    (h : ∀ segment ∈ first :: more, '/' ∉ segment.toList) :
    linkOf (linkRoot (Path.ofString workspace) layout) (first :: more) =
      hoistedLink workspace layout (first :: more) := by
  rw [linkOf_eq _ h, hoistedLink, Path.ofString_intercalate hfirst h]
  rfl

/-- The segments of a spelled store path are read, whatever separators stand behind it. -/
theorem segments_of_grammar (hgrammar : StorePath.Grammar layout segments lead package name)
    (hspelled : StorePath.Spells segments path.toList)
    (htrailing : ∀ c ∈ trailing.toList, StorePath.isSeparator c = true) :
    StorePath.segments (path ++ trailing) = segments := by
  rw [StorePath.segments_append_separators htrailing]
  refine hspelled.segments_eq ?_
  rw [hgrammar.eq, List.getLast?_append_of_ne_nil _ hgrammar.name_ne]
  intro hlast
  exact hgrammar.no_empty "" (List.mem_of_getLast? hlast) rfl

theorem linkFor?_of_grammar (workspace : String)
    (hgrammar : StorePath.Grammar layout segments lead package name)
    (hsegments : StorePath.segments path = segments) :
    linkFor? (Path.ofString workspace) layout path = some (hoistedLink workspace layout name) := by
  subst hsegments
  have hparts := StorePath.parts_iff_grammar.mpr hgrammar
  have hslash := no_slash_of_parts hparts
  rw [linkFor?_of_parts hparts]
  cases name with
  | nil => exact absurd rfl hgrammar.name_ne
  | cons first more =>
    rw [linkOf_eq_hoistedLink (hgrammar.no_empty first List.mem_cons_self) hslash]

/-! ### Asking for the link -/

theorem not_unanswered_of_answer {folder link : Path} {there : Bool}
    (hlink : linkFor? folder layout path = some link) (h : files.exists? link = .ok there) :
    ¬ Unanswered files folder layout path := by
  rintro ⟨other, hother, hstatus⟩
  rw [hlink] at hother
  cases hother
  rw [FileSystem.exists?, FileSystem.ask_eq_error_iff.mpr ⟨rfl, hstatus⟩] at h
  cases h

theorem outcome_hoist_singleton {folder : Path} (h : ¬ Unanswered files folder layout path) :
    (hoist files folder layout [path]).outcome = .ok [standIn files folder layout path] :=
  outcome_hoist_of_answered fun _ hmem => List.mem_singleton.mp hmem ▸ h

/-- The answer about the link decides what becomes of a path. -/
theorem outcome_hoist_of_answer {folder link : Path} {there : Bool}
    (hlink : linkFor? folder layout path = some link) (h : files.exists? link = .ok there) :
    (hoist files folder layout [path]).outcome =
      .ok [if there then link.toString else path] := by
  rw [outcome_hoist_singleton (not_unanswered_of_answer hlink h)]
  have hfound := found_of_answer h
  cases there with
  | true => rw [standIn_of_found hlink hfound, if_pos rfl]
  | false => rw [standIn_of_not_found hlink hfound, if_neg Bool.false_ne_true]

/-- A store path, however it is spelled, is replaced by the text of its link exactly if something
is found there, and stays as it is otherwise; and of several paths each is replaced as if it were
alone. -/
theorem hoist_replaces_by_link (files : FileSystem) (workspace : String) (layout : StoreLayout) :
    (∀ (segments lead : List String) (package : String) (name : List String)
      (path trailing : String) (there : Bool),
      StorePath.Grammar layout segments lead package name →
      StorePath.Spells segments path.toList →
      (∀ c ∈ trailing.toList, StorePath.isSeparator c = true) →
      files.exists? (hoistedLink workspace layout name) = .ok there →
        (there = true ↔
          ∃ entry, files.status (hoistedLink workspace layout name).toString = .ok entry) ∧
        (hoist files (Path.ofString workspace) layout [path ++ trailing]).outcome =
          .ok [if there then (hoistedLink workspace layout name).toString
            else path ++ trailing]) ∧
    ∀ paths : List String,
      (∀ path ∈ paths, ¬ Unanswered files (Path.ofString workspace) layout path) →
      ∃ shown, (hoist files (Path.ofString workspace) layout paths).outcome = .ok shown ∧
        shown.length = paths.length ∧
        ∀ i (hpath : i < paths.length) (htext : i < shown.length),
          (hoist files (Path.ofString workspace) layout [paths[i]]).outcome =
            .ok [shown[i]] := by
  constructor
  · intro segments lead package name path trailing there hgrammar hspelled htrailing hthere
    have hlink := linkFor?_of_grammar workspace hgrammar
      (segments_of_grammar hgrammar hspelled htrailing)
    refine ⟨?_, outcome_hoist_of_answer hlink hthere⟩
    have htrue : there = true ↔
        files.exists? (hoistedLink workspace layout name) = .ok true := by
      rw [hthere, Except.ok.injEq]
    rw [htrue, FileSystem.exists?, FileSystem.ask_eq_true_iff]
    simp only [and_true]
  · intro paths hanswered
    refine ⟨_, outcome_hoist_of_answered hanswered, List.length_map _, ?_⟩
    intro i hpath htext
    rw [outcome_hoist_singleton (hanswered _ (List.getElem_mem hpath)), List.getElem_map]

namespace Sample

def chainedFiles : FileSystem where
  entries := [(["ws"], .directory), (["ws", "node_modules"], .directory),
    (["ws", "node_modules", "@s"], .directory),
    (["ws", "node_modules", "@s", "p"], .link "../../p"), (["ws", "p"], .link "store"),
    (["ws", "store"], .directory)]
  workingFolder := "/ws"

theorem exists_chainedLink :
    chainedFiles.exists? (hoistedLink "." {} ["@s", "p"]) = .ok true := by
  have htext : (hoistedLink "." {} ["@s", "p"]).toString = "node_modules/@s/p" := by decide
  have hfolder : Text.splitSlash "/ws" = ["", "ws"] := by decide
  have hpieces : Text.splitSlash "node_modules/@s/p" = ["node_modules", "@s", "p"] := by decide
  have hfirst : Text.splitSlash "../../p" = ["..", "..", "p"] := by decide
  have hsecond : Text.splitSlash "store" = ["store"] := by decide
  have hrelative : (Path.ofString "node_modules/@s/p").isAbsolute = false := by decide
  have hrelative' : (Path.ofString "../../p").isAbsolute = false := by decide
  have hrelative'' : (Path.ofString "store").isAbsolute = false := by decide
  rw [FileSystem.exists?, FileSystem.ask_eq_true_iff, htext]
  refine ⟨.directory, ?_, rfl⟩
  simp [FileSystem.status, FileSystem.locate, String.contains_char_eq, hfolder, hpieces, hfirst,
    hsecond, hrelative, hrelative', hrelative'', FileSystem.walk, FileSystem.entry?,
    FileSystem.maxNameOctets, FileSystem.maxLinks, chainedFiles, List.lookup_cons]
  decide

end Sample

/-- A scoped package in another store is replaced by its link in the working folder, also beside a
path outside the store. -/
theorem chained_link_replaces :
    StorePath.Grammar {} (StorePath.segments StorePath.Sample.scopedPath) ["C:", "ws"] "@s+p@1"
        ["@s", "p"] ∧
      Sample.chainedFiles.exists? (hoistedLink "." {} ["@s", "p"]) = .ok true ∧
      (hoist Sample.chainedFiles (Path.ofString ".") {}
        [StorePath.Sample.scopedPath ++ "//"]).outcome = .ok ["node_modules/@s/p"] ∧
      ∃ shown, (hoist Sample.chainedFiles (Path.ofString ".") {}
          [StorePath.Sample.scopedPath ++ "//", "/lib"]).outcome = .ok shown ∧
        shown.length = 2 := by
  have hspelled : StorePath.Spells (StorePath.segments StorePath.Sample.scopedPath)
      StorePath.Sample.scopedPath.toList := by
    have hsplit : Text.split StorePath.isSeparator StorePath.Sample.scopedPath =
        StorePath.segments StorePath.Sample.scopedPath := by decide
    exact hsplit ▸ StorePath.spells_split StorePath.Sample.scopedPath
  have hseparators : ∀ c ∈ "//".toList, StorePath.isSeparator c = true := by
    simp [StorePath.isSeparator]
  have htext : (hoistedLink "." {} ["@s", "p"]).toString = "node_modules/@s/p" := by decide
  obtain ⟨hone, hmany⟩ := hoist_replaces_by_link Sample.chainedFiles "." {}
  have houtcome := (hone _ _ _ _ _ "//" true StorePath.Sample.grammar_scopedPath hspelled
    hseparators Sample.exists_chainedLink).2
  rw [if_pos rfl, htext] at houtcome
  have hanswered : ∀ path ∈ [StorePath.Sample.scopedPath ++ "//", "/lib"],
      ¬ Unanswered Sample.chainedFiles (Path.ofString ".") {} path := by
    intro path hpath
    rcases List.mem_pair.mp hpath with rfl | rfl
    · have hlink := linkFor?_of_grammar "." StorePath.Sample.grammar_scopedPath
        (segments_of_grammar StorePath.Sample.grammar_scopedPath hspelled hseparators)
      exact not_unanswered_of_answer hlink Sample.exists_chainedLink
    · have hnone : linkFor? (Path.ofString ".") {} "/lib" = none := by decide
      exact not_unanswered_of_no_link hnone
  obtain ⟨shown, hshown, hlength, -⟩ := hmany _ hanswered
  exact ⟨StorePath.Sample.grammar_scopedPath, Sample.exists_chainedLink, houtcome, shown, hshown,
    hlength⟩

end ProductionClosure

import Mathlib
import ProductionClosure.Proofs.Hoisting.Versions
import ProductionClosure.Proofs.Path.Collapse
import ProductionClosure.Proofs.StorePath.Grammar

/-!
Where links lead as texts. A link is made of the link folder and the package name as it stands in
the store path, so a name of plain segments leads below the folder. Nothing keeps `.` and `..` out
of a name: a name may come to nothing, or lead out of the folder, and the path is replaced all the
same where something is found there.
-/

namespace ProductionClosure

variable {files : FileSystem} {folder : Path} {layout : StoreLayout} {path text : String}
  {name : List String}

/-- A path that comes to another text is replaced by the link of its package. -/
theorem exists_link_of_standIn_ne (h : standIn files folder layout path ≠ path) :
    ∃ lead package name, StorePath.Parts layout (StorePath.segments path) lead package name ∧
      standIn files folder layout path = (linkOf (linkRoot folder layout) name).toString := by
  cases hname : StorePath.packageName? layout path with
  | none =>
    have hlink : linkFor? folder layout path = none := by rw [linkFor?, hname]; rfl
    exact absurd (standIn_of_no_link hlink) h
  | some name =>
    have hlink : linkFor? folder layout path = some (linkOf (linkRoot folder layout) name) := by
      rw [linkFor?, hname]
      rfl
    obtain ⟨lead, package, hparts⟩ := StorePath.exists_parts_of_nameIn? hname
    refine ⟨lead, package, name, hparts, ?_⟩
    cases hfound : files.found (linkOf (linkRoot folder layout) name) with
    | false => exact absurd (standIn_of_not_found hlink hfound) h
    | true => exact standIn_of_found hlink hfound

/-- The text of a link leads below the link folder exactly if the name of the package does. -/
theorem below_linkOf_iff (hfolder : Path.Named folder.segments)
    (hslash : ∀ segment ∈ name, '/' ∉ segment.toList) :
    (linkRoot folder layout).Below
        (Path.ofString (linkOf (linkRoot folder layout) name).toString) ↔
      (linkRoot folder layout).LeadsBelow (name.filter Path.isSegment) := by
  have hroot : Path.Named (linkRoot folder layout).segments := by
    show Path.Named (Path.join _ _).segments
    unfold Path.join
    split
    · exact Path.named_ofString _
    · exact hfolder.append (Path.named_ofString _)
  rw [linkOf_eq _ hslash, Path.ofString_toString (hroot.append (named_filter hslash)),
    Path.below_iff_leadsBelow]

/-- Plain segments lead down all along. -/
theorem leadsBelow_of_plain (root : Path) (hname : StorePath.isName name = true)
    (h : ∀ segment ∈ name, segment ≠ "." ∧ segment ≠ "..") :
    root.LeadsBelow (name.filter Path.isSegment) := by
  obtain ⟨hne, hempty, -⟩ := StorePath.isName_iff.mp hname
  have hkept : name.filter Path.isSegment = name :=
    List.filter_eq_self.mpr fun segment hmem =>
      Path.isSegment_eq_true.mpr ⟨hempty segment hmem, (h segment hmem).1⟩
  rw [hkept]
  exact Path.leadsBelow_of_no_parent root hne fun hmem => (h ".." hmem).2 rfl

/-- Each path is kept, or a text stands for it that is made from the name of a package. Read as a
path, this text leads below the link folder exactly if the name does: always where the name has
plain segments only, and else if it comes back to the folder as often as it leaves it, and goes on
from there. -/
theorem hoisted_stays_below_unless_led_out (files : FileSystem) (workspace : String)
    (layout : StoreLayout) (paths shown : List String)
    (h : (hoist files (Path.ofString workspace) layout paths).outcome = .ok shown) :
    shown.length = paths.length ∧
      ∀ i (hpath : i < paths.length) (htext : i < shown.length), shown[i] ≠ paths[i] →
        ∃ name, StorePath.packageName? layout paths[i] = some name ∧
          ((linkRoot (Path.ofString workspace) layout).Below (Path.ofString shown[i]) ↔
            (linkRoot (Path.ofString workspace) layout).LeadsBelow
              (name.filter Path.isSegment)) ∧
          ((∀ segment ∈ name, segment ≠ "." ∧ segment ≠ "..") →
            (linkRoot (Path.ofString workspace) layout).Below (Path.ofString shown[i])) := by
  obtain ⟨-, rfl⟩ := outcome_hoist_eq_ok.mp h
  refine ⟨List.length_map _, fun i hpath htext hne => ?_⟩
  rw [List.getElem_map] at hne ⊢
  obtain ⟨lead, package, name, hparts, hlink⟩ := exists_link_of_standIn_ne hne
  have hbelow : (linkRoot (Path.ofString workspace) layout).Below (Path.ofString
      (linkOf (linkRoot (Path.ofString workspace) layout) name).toString) ↔ _ :=
    below_linkOf_iff (Path.named_ofString workspace) (no_slash_of_parts hparts)
  rw [hlink]
  exact ⟨name, hparts.nameIn?_eq, hbelow, fun hplain =>
    hbelow.mpr (leadsBelow_of_plain _ hparts.isName hplain)⟩

namespace Sample

def onePackage : FileSystem where
  entries := [(["ws"], .directory), (["ws", "node_modules"], .directory),
    (["ws", "node_modules", "a"], .directory)]
  workingFolder := "/"

/-- A package, the link folder itself, the workspace, and the package again on a way around. -/
def dottedPaths : List String :=
  ["/ws/node_modules/.pnpm/a@1/node_modules/a", "/ws/node_modules/.pnpm/b@1/node_modules/.",
    "/ws/node_modules/.pnpm/c@1/node_modules/..",
    "/ws/node_modules/.pnpm/d@1/node_modules/../node_modules/a"]

def dottedLinks : List String :=
  ["/ws/node_modules/a", "/ws/node_modules", "/ws/node_modules/..",
    "/ws/node_modules/../node_modules/a"]

theorem outcome_hoist_dottedPaths :
    (hoist onePackage (Path.ofString "/ws") {} dottedPaths).outcome = .ok dottedLinks := by
  cbv

def packageFolder : Path := ⟨.root, ["ws", "node_modules"]⟩

theorem linkRoot_workspace : linkRoot (Path.ofString "/ws") {} = packageFolder := by decide

/-- The workspace is not below its link folder. -/
theorem not_below_workspace : ¬ packageFolder.Below (Path.ofString "/ws/node_modules/..") := by
  rintro ⟨-, more, -, -, hsegments⟩
  have hworkspace : (Path.ofString "/ws/node_modules/..").normalized.segments = ["ws"] := by decide
  have hfolder : packageFolder.normalized.segments = ["ws", "node_modules"] := by decide
  rw [hworkspace, hfolder] at hsegments
  cases hsegments

end Sample

/-- A dot leads to the link folder itself and two dots lead out of it, while a way out that comes
back leads below it like a plain name. -/
theorem dotted_names_lead_out :
    (hoist Sample.onePackage (Path.ofString "/ws") {} Sample.dottedPaths).outcome =
        .ok Sample.dottedLinks ∧
      Sample.packageFolder.Below (Path.ofString "/ws/node_modules/a") ∧
      ¬ Sample.packageFolder.Below (Path.ofString "/ws/node_modules") ∧
      ¬ Sample.packageFolder.Below (Path.ofString "/ws/node_modules/..") ∧
      Sample.packageFolder.Below (Path.ofString "/ws/node_modules/../node_modules/a") := by
  have hhoisted := Sample.outcome_hoist_dottedPaths
  obtain ⟨-, hshown⟩ := hoisted_stays_below_unless_led_out _ _ _ _ _ hhoisted
  rw [Sample.linkRoot_workspace] at hshown
  refine ⟨hhoisted, ?_, ?_, ?_, ?_⟩
  · obtain ⟨name, hname, -, hplain⟩ := hshown 0 (by decide) (by decide) (by decide)
    have hread : StorePath.packageName? {} Sample.dottedPaths[0] = some ["a"] := by cbv
    obtain rfl := Option.some.inj (hread.symm.trans hname)
    exact hplain (by simp)
  · obtain ⟨name, hname, hiff, -⟩ := hshown 1 (by decide) (by decide) (by decide)
    have hread : StorePath.packageName? {} Sample.dottedPaths[1] = some ["."] := by cbv
    obtain rfl := Option.some.inj (hread.symm.trans hname)
    exact hiff.not.mpr (Path.not_leadsBelow_of_downs (by decide))
  · obtain ⟨name, hname, hiff, -⟩ := hshown 2 (by decide) (by decide) (by decide)
    have hread : StorePath.packageName? {} Sample.dottedPaths[2] = some [".."] := by cbv
    obtain rfl := Option.some.inj (hread.symm.trans hname)
    exact hiff.not.mpr (Path.not_leadsBelow_of_downs (by decide))
  · obtain ⟨name, hname, hiff, -⟩ := hshown 3 (by decide) (by decide) (by decide)
    have hread : StorePath.packageName? {} Sample.dottedPaths[3] =
        some ["..", "node_modules", "a"] := by cbv
    obtain rfl := Option.some.inj (hread.symm.trans hname)
    exact hiff.mpr ⟨Or.inl rfl, ["a"], List.cons_ne_nil _ _, by decide⟩

/-- So what stands for a path may lie outside the link folder. -/
theorem rewritten_path_can_leave :
    ¬ ∀ (files : FileSystem) (workspace : String) (layout : StoreLayout)
        (paths shown : List String),
      layout.linkFolder ≠ "" → layout.linkFolder ≠ "." → layout.linkFolder ≠ ".." →
      (∀ c ∈ layout.linkFolder.toList, StorePath.isSeparator c = false) →
      (hoist files (Path.ofString workspace) layout paths).outcome = .ok shown →
        ∀ i (hpath : i < paths.length) (htext : i < shown.length), shown[i] ≠ paths[i] →
          (linkRoot (Path.ofString workspace) layout).Below (Path.ofString shown[i]) := by
  intro hcontained
  have hbelow := hcontained Sample.onePackage "/ws" {} Sample.dottedPaths Sample.dottedLinks
    (by decide) (by decide) (by decide) (by simp [StorePath.isSeparator])
    Sample.outcome_hoist_dottedPaths 2 (by decide) (by decide) (by decide)
  rw [Sample.linkRoot_workspace] at hbelow
  exact Sample.not_below_workspace hbelow

end ProductionClosure

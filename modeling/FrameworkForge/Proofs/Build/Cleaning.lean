import FrameworkForge.Proofs.Packaging.Layout
import FrameworkForge.Proofs.Path.Inside
import Mathlib.Data.List.Forall2

/-! What the clean stage removes. The outputs are removed where the names in the settings say that
they are, inside of the output directory or not. -/

namespace FrameworkForge

namespace IsFileName

theorem component_ne_parent {s : String} (h : IsFileName s) : h.component ≠ .parent :=
  fun heq => h.2 (congrArg Component.name heq)

end IsFileName

namespace Path

/-- Names that begin alike and end in different suffixes lie in one directory. -/
theorem exists_parse_append (s : String) : ∃ lead front, ∀ suffix : String,
    '/' ∉ suffix.toList → 2 < suffix.length →
      ∃ c, c ≠ .parent ∧ parse (s ++ suffix) = ⟨lead, front ++ [c]⟩ := by
  obtain ⟨pieces, last, hlast, hsplit⟩ := Text.exists_splitAt_append '/' s.toList
  let front := pieces.filterMap fun piece => Component.ofString? (String.ofList piece)
  refine ⟨leadOf (s.toList ++ ['.']), front, fun suffix hslash hlength => ?_⟩
  have hne : suffix.toList ≠ [] := by
    intro heq
    simp [String.toList_eq_nil_iff.mp heq] at hlength
  have hname : IsFileName (String.ofList last ++ suffix) :=
    isFileName_append (by simpa using hlast) hslash hlength
  refine ⟨hname.component, hname.component_ne_parent, ?_⟩
  have hcomponent : Component.ofString? (String.ofList (last ++ suffix.toList)) =
      some hname.component := by
    rw [String.ofList_append, String.ofList_toList]
    exact hname.component.ofString?_name
  have hend : [last ++ suffix.toList].filterMap
      (fun piece => Component.ofString? (String.ofList piece)) = [hname.component] := by
    simp only [List.filterMap_cons, hcomponent, List.filterMap_nil]
  simp only [parse, componentsOf, String.toList_append, hsplit suffix.toList hslash,
    List.filterMap_append, leadOf_append hne hslash, hend]
  rfl

theorem exists_join_concat (p : Path) (lead : Lead) (front : List Component) :
    ∃ lead' front', ∀ c, p.join ⟨lead, front ++ [c]⟩ = ⟨lead', front' ++ [c]⟩ := by
  cases lead with
  | relative => exact ⟨p.lead, p.parts ++ front, fun c => by simp [join_of_relative]⟩
  | root => exact ⟨.root, front, fun c => join_of_isAbsolute p rfl⟩
  | doubleRoot => exact ⟨.doubleRoot, front, fun c => join_of_isAbsolute p rfl⟩

end Path

namespace Config

/-- The name of the merged library in the settings, or the one made from the name of the crate. -/
def mergedName (entries : Value.Entries) : String :=
  if (Setting.inForce entries .mergedLibrary).isGiven
  then (Setting.inForce entries .mergedLibrary).plain
  else Artifact.mergedLibrary (Setting.inForce entries .crate).plain

/-- The container and its archive lie side by side. -/
theorem isStrictlyInside_archiveFile_iff (c : Config) :
    c.archiveFile.IsStrictlyInside c.outputDir ↔ c.container.IsStrictlyInside c.outputDir := by
  obtain ⟨lead, front, hnames⟩ := Path.exists_parse_append c.frameworkName.plain
  obtain ⟨f, hf, hframework⟩ := hnames ".xcframework" (by decide) (by decide)
  obtain ⟨a, ha, harchive⟩ := hnames ".xcframework.zip" (by decide) (by decide)
  obtain ⟨lead, front, hplaces⟩ := c.outputDir.exists_join_concat lead front
  have hF : c.container = ⟨lead, front ++ [f]⟩ :=
    (congrArg c.outputDir.join hframework).trans (hplaces f)
  have hZ : c.archiveFile = ⟨lead, front ++ [a]⟩ := by
    refine (congrArg c.outputDir.join ?_).trans (hplaces a)
    change Path.parse (c.frameworkName.plain ++ ".xcframework" ++ ".zip") = _
    rw [String.append_assoc]
    exact harchive
  rw [hF, hZ, Path.isStrictlyInside_concat_iff ha, Path.isStrictlyInside_concat_iff hf]

theorem Resolved.mergedLibrary_eq_div {host : Host} {entries : Value.Entries} {projectRoot : Path}
    {c : Config} (h : Resolved host entries projectRoot c) :
    c.mergedLibrary = c.outputDir / mergedName entries := by
  rw [h.mergedLibrary_eq, mergedName, h.crate]

theorem Resolved.isAbsolute_of_mem_outputs {host : Host} {entries : Value.Entries}
    {projectRoot : Path} {c : Config} (h : Resolved host entries projectRoot c) {out : Path}
    (hout : out ∈ c.outputs) : out.isAbsolute = true := by
  simp only [outputs, List.mem_cons, List.not_mem_nil, or_false] at hout
  rcases hout with rfl | rfl | rfl
  · exact Path.isAbsolute_div h.isAbsolute_outputDir _
  · exact Path.isAbsolute_div h.isAbsolute_outputDir _
  · exact h.isAbsolute_mergedLibrary

end Config

namespace Build

open Config Recipe

/-- The task removes what is at the place, with all below it, and has no other operand. -/
structure Removes (c : Config) (out : Path) (t : Task) : Prop where
  executable : t.executable = c.tools.executable .rm
  operand : ∃ operand, t.arguments = ["-rv", operand] ∧ c.root / operand = out
  directory : t.directory = some c.root

/-- The task merges libraries into one at the place. -/
structure MergesInto (c : Config) (out : Path) (t : Task) : Prop where
  executable : t.executable = c.tools.executable .lipo
  operands : ∃ operand inputs, t.arguments = ["-create", "-output", operand] ++ inputs ∧
    c.root / operand = out
  directory : t.directory = some c.root

/-- The removals and the merge reach nothing but what lies strictly inside of the output
directory. -/
structure CleansInside (c : Config) (p : Pipeline) : Prop where
  three : (p.tasksOf "clean").length = 3
  removals : ∀ t ∈ p.tasksOf "clean", ∃ out, Removes c out t ∧ out.IsStrictlyInside c.outputDir
  merge : ∃ t out, p.tasksOf "merge-slices" = [t] ∧ MergesInto c out t ∧
    out.IsStrictlyInside c.outputDir

theorem removes_remove_iff {c : Config} {out : Path} (h : out.isAbsolute = true) {place : Path} :
    Removes c place (remove (out.shownFrom c.root) c.root (c.tools.executable .rm)) ↔
      place = out := by
  have hshown : c.root / out.shownFrom c.root = out := Path.div_shownFrom h c.root
  constructor
  · rintro ⟨-, ⟨operand, harguments, rfl⟩, -⟩
    obtain rfl : out.shownFrom c.root = operand := by simpa [remove] using harguments
    exact hshown
  · rintro rfl
    exact ⟨rfl, ⟨_, rfl, hshown⟩, rfl⟩

theorem mergesInto_merging_iff {c : Config} {out : Path} (h : out.isAbsolute = true)
    (inputs : List Path) {place : Path} :
    MergesInto c place (merging inputs out c.root (c.tools.executable .lipo)) ↔ place = out := by
  have htext : c.root / out.text = out := Path.div_text c.root h
  constructor
  · rintro ⟨-, ⟨operand, others, harguments, rfl⟩, -⟩
    obtain ⟨rfl, -⟩ : out.text = operand ∧ inputs.map Path.text = others := by
      simpa [merging] using harguments
    exact htext
  · rintro rfl
    exact ⟨rfl, ⟨_, _, rfl, htext⟩, rfl⟩

section

variable {host : Host} {entries : Value.Entries} {projectRoot : Path} {c : Config} {p : Pipeline}

theorem tasksOf_clean (hp : pipeline c = .ok p) : p.tasksOf "clean" = c.outputs.map fun out =>
    remove (out.shownFrom c.root) c.root (c.tools.executable .rm) :=
  tasksOf_stage hp (clean c) (by simp [stages])

theorem forall₂_removes (h : Resolved host entries projectRoot c) (hp : pipeline c = .ok p) :
    List.Forall₂ (Removes c) c.outputs (p.tasksOf "clean") := by
  rw [tasksOf_clean hp, List.forall₂_map_right_iff, List.forall₂_same]
  exact fun out hout => (removes_remove_iff (h.isAbsolute_of_mem_outputs hout)).mpr rfl

theorem cleansInside_iff_outputs (h : Resolved host entries projectRoot c)
    (hp : pipeline c = .ok p) :
    CleansInside c p ↔ ∀ out ∈ c.outputs, out.IsStrictlyInside c.outputDir := by
  have hclean := tasksOf_clean hp
  have hmerge : p.tasksOf "merge-slices" =
      [merging (simulatorLibraries c) c.mergedLibrary c.root (c.tools.executable .lipo)] :=
    tasksOf_stage hp (mergeSlices c _) (by simp [stages])
  constructor
  · rintro ⟨-, hremovals, -⟩ out hout
    obtain ⟨place, hplace, hinside⟩ := hremovals _ (hclean ▸ List.mem_map_of_mem hout)
    rwa [(removes_remove_iff (h.isAbsolute_of_mem_outputs hout)).mp hplace] at hinside
  · intro hinside
    refine ⟨by rw [hclean]; rfl, ?_, _, _, hmerge,
      (mergesInto_merging_iff h.isAbsolute_mergedLibrary _).mpr rfl,
      hinside _ c.mem_outputs.2.2⟩
    rw [hclean, List.forall_mem_map]
    exact fun out hout =>
      ⟨out, (removes_remove_iff (h.isAbsolute_of_mem_outputs hout)).mpr rfl, hinside out hout⟩

end

/-- What the clean stage removes are the outputs. They lie inside of the output directory exactly
when the name of the framework and the name of the merged library stay in there. -/
theorem cleansInside_iff {host : Host} {data : Value} {projectRoot : Path} {c : Config}
    {p : Pipeline} (hc : Config.resolve host data projectRoot = .ok c) (hp : pipeline c = .ok p) :
    ∃ entries, data.settings = .ok entries ∧
      List.Forall₂ (Removes c) c.outputs (p.tasksOf "clean") ∧
      (CleansInside c p ↔
        c.outputDir.StaysIn c.framework ∧ c.outputDir.StaysIn (mergedName entries)) := by
  obtain ⟨entries, hentries, h⟩ := resolve_eq_ok_iff.mp hc
  refine ⟨entries, hentries, forall₂_removes h hp, ?_⟩
  rw [cleansInside_iff_outputs h hp]
  simp only [outputs, List.forall_mem_cons, List.not_mem_nil, false_imp_iff, implies_true,
    and_true, isStrictlyInside_archiveFile_iff, and_self_left, h.mergedLibrary_eq_div]
  rw [container, Path.isStrictlyInside_div_iff, Path.isStrictlyInside_div_iff]

theorem cleansInside_iff_usual :
    ∃ c p entries, Config.resolve Host.plain .null (Path.parse "/project") = .ok c ∧
      pipeline c = .ok p ∧ Value.null.settings = .ok entries ∧
      List.Forall₂ (Removes c) c.outputs (p.tasksOf "clean") ∧
      (CleansInside c p ↔
        c.outputDir.StaysIn c.framework ∧ c.outputDir.StaysIn (mergedName entries)) ∧
      CleansInside c p := by
  obtain ⟨tools, hc, -⟩ := exists_resolve_plain (Path.parse "/project") rfl (by decide)
  have hp := pipeline_of_buildable (buildable_usual (Path.parse "/project") tools)
  obtain ⟨entries, hentries, hremoves, hiff⟩ := cleansInside_iff hc hp
  cases hentries
  have hnames : (Path.parse "/project" / "buildIos").StaysIn "MLSrs.xcframework" ∧
      (Path.parse "/project" / "buildIos").StaysIn "libmls_rs_uniffi_ios_sim_combined.a" := by
    decide +kernel
  exact ⟨_, _, [], hc, hp, rfl, hremoves, hiff, hiff.mpr hnames⟩

/-- Settings that name the merged library and nothing else. -/
def mergedLibrarySettings (name : String) : Value.Entries :=
  [(.text Setting.mergedLibrary.key, .text name)]

def usualMerging (root : Path) (tools : Toolbox) (name : String) : Config :=
  { usual root tools with mergedLibrary := root / "buildIos" / name }

theorem resolved_usualMerging {host : Host} {root : Path} {tools : Toolbox}
    (h : Resolved host [] root (usual root tools)) {name : String} (hname : name ≠ "") :
    Resolved host (mergedLibrarySettings name) root (usualMerging root tools name) :=
  { h with
    mergedLibrary := by
      have hgiven : Setting.inForce (mergedLibrarySettings name) .mergedLibrary = .text name := rfl
      rw [hgiven, mergedLibraryIn, if_pos (by simpa [Value.isGiven] using hname)]
      rfl }

theorem buildable_usualMerging (root : Path) (tools : Toolbox) (name : String) :
    Buildable (usualMerging root tools name) where
  writable := (buildable_usual root tools).writable
  moduleMapName := (buildable_usual root tools).moduleMapName
  libraries := (buildable_usual root tools).libraries

/-- A merged library whose name goes up is removed above the output directory. -/
theorem not_cleansInside_of_climbing_name :
    ∃ c p, Config.resolve Host.plain (.map (mergedLibrarySettings "../../precious") none)
        (Path.parse "/work") = .ok c ∧ pipeline c = .ok p ∧ ¬ CleansInside c p ∧
      ∃ t ∈ p.tasksOf "clean", Removes c (Path.parse "/work/buildIos/../../precious") t := by
  obtain ⟨tools, husual, -⟩ := exists_resolved_plain (Path.parse "/work") rfl (by decide)
  let c := usualMerging (Path.parse "/work") tools "../../precious"
  have h : Resolved Host.plain (mergedLibrarySettings "../../precious") (Path.parse "/work") c :=
    resolved_usualMerging husual (by decide)
  have hp := pipeline_of_buildable
    (buildable_usualMerging (Path.parse "/work") tools "../../precious")
  have hplace : Path.parse "/work/buildIos/../../precious" =
      Path.parse "/work" / "buildIos" / "../../precious" := by decide +kernel
  have houtside : ¬ (Path.parse "/work" / "buildIos" / "../../precious").IsStrictlyInside
      (Path.parse "/work" / "buildIos") := by decide +kernel
  refine ⟨c, _, resolve_eq_ok_iff.mpr ⟨_, rfl, h⟩, hp, ?_, ?_⟩
  · rw [cleansInside_iff_outputs h hp]
    exact fun hall => houtside (hall _ c.mem_outputs.2.2)
  · rw [tasksOf_clean hp, hplace]
    exact ⟨_, List.mem_map_of_mem c.mem_outputs.2.2,
      (removes_remove_iff h.isAbsolute_mergedLibrary).mpr rfl⟩

end Build

end FrameworkForge

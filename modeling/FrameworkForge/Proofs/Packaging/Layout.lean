import FrameworkForge.Proofs.Packaging.Tools

/-! Where a package run puts its outputs: three entries of the output directory, apart from all
that the run reads. -/

namespace FrameworkForge

def IsFileName (s : String) : Prop :=
  IsComponent s ∧ s ≠ ".."

instance (s : String) : Decidable (IsFileName s) :=
  inferInstanceAs (Decidable (_ ∧ _))

theorem isFileName_append {s suffix : String} (hs : '/' ∉ s.toList)
    (hsuffix : '/' ∉ suffix.toList) (hlength : 2 < suffix.length) : IsFileName (s ++ suffix) := by
  have hlonger : 2 < (s ++ suffix).length := by
    rw [String.length_append]
    omega
  refine ⟨⟨?_, ?_, by simp [hs, hsuffix]⟩, ?_⟩ <;> intro heq <;> rw [heq] at hlonger <;>
    revert hlonger <;> decide

namespace IsFileName

def component {s : String} (h : IsFileName s) : Component :=
  ⟨s, h.1⟩

theorem slash_not_mem {s : String} (h : IsFileName s) : '/' ∉ s.toList :=
  h.1.2.2

theorem parse_eq {s : String} (h : IsFileName s) : Path.parse s = ⟨.relative, [h.component]⟩ := by
  have htext : (⟨.relative, [h.component]⟩ : Path).text = s := by
    simp [Path.text, Path.leadText, component]
  rw [← Path.parse_text ⟨.relative, [h.component]⟩, htext]

theorem framework {s : String} (h : IsFileName s) : IsFileName (Artifact.framework s) :=
  isFileName_append h.slash_not_mem (by decide) (by decide)

theorem archive {s : String} (h : IsFileName s) : IsFileName (Artifact.archive s) :=
  isFileName_append h.framework.slash_not_mem (by decide) (by decide)

theorem mergedLibrary {s : String} (h : IsFileName s) :
    IsFileName (Artifact.mergedLibrary s) := by
  have hslash : '/' ∉ ("lib" ++ s).toList := by simp [h.slash_not_mem]
  exact isFileName_append hslash (by decide) (by decide)

end IsFileName

namespace Path

/-- The place of a path on a machine without links. -/
def place (p : Path) : Place :=
  fold [] p.parts

theorem place_div (p : Path) {name : String} (h : IsFileName name) :
    (p / name).place = p.place ++ (parse name).parts := by
  have hfold (base parts : List Component) : fold base (parts ++ [h.component]) =
      fold base parts ++ [h.component] := by
    induction parts generalizing base with
    | nil =>
      refine if_neg fun heq => h.2 ?_
      exact congrArg Component.name heq
    | cons c parts ih =>
      simp only [List.cons_append, fold]
      split <;> exact ih _
  rw [div_eq_join, h.parse_eq, join_of_relative p rfl]
  exact hfold [] p.parts

end Path

namespace Config

/-- What a package run makes, in the order in which it removes it first. -/
def outputs (c : Config) : List Path :=
  [c.container, c.archiveFile, c.mergedLibrary]

theorem mem_outputs (c : Config) :
    c.container ∈ c.outputs ∧ c.archiveFile ∈ c.outputs ∧ c.mergedLibrary ∈ c.outputs := by
  simp [outputs]

theorem outputs_ne {c : Config} (h : c.outputs.Nodup) : c.container ≠ c.archiveFile ∧
    c.container ≠ c.mergedLibrary ∧ c.archiveFile ≠ c.mergedLibrary := by
  simpa [outputs, and_assoc] using h

/-- The names that outputs are called by are names of single files. -/
structure NamesFiles (data : Value) (c : Config) : Prop where
  crate : IsFileName c.crate.plain
  frameworkName : IsFileName c.frameworkName.plain
  mergedLibrary : ∀ entries, data.settings = .ok entries →
    (Setting.inForce entries .mergedLibrary).isGiven = true →
      IsFileName (Setting.inForce entries .mergedLibrary).plain

/-- What a package run reads is none of its outputs, and the outputs are different. Names in the
output directory are looked for in that directory; all other paths may lead anywhere. -/
structure Layout (c : Config) (locate : Path → Place) : Prop where
  inside : ∀ name, IsFileName name →
    locate (c.outputDir / name) = locate c.outputDir ++ (Path.parse name).parts
  distinct : c.outputs.Nodup
  libraries : ∀ t ∈ c.targets.targets, ∀ out ∈ c.outputs,
    ¬ locate out <+: locate (t.releaseLibrary c.targetDir c.crate.plain)
  bindings : ∀ out ∈ c.outputs, ¬ locate out <+: locate c.bindingsDir
  bindingsApart : ¬ locate c.bindingsDir <+: locate c.outputDir

theorem exists_fileName_of_mem_outputs {host : Host} {data : Value} {projectRoot : Path}
    {c : Config} (hc : Config.resolve host data projectRoot = .ok c) (hnames : c.NamesFiles data)
    {out : Path} (h : out ∈ c.outputs) : ∃ name, IsFileName name ∧ out = c.outputDir / name := by
  obtain ⟨entries, hentries, hresolved⟩ := resolve_eq_ok_iff.mp hc
  simp only [outputs, List.mem_cons, List.not_mem_nil, or_false] at h
  rcases h with rfl | rfl | rfl
  · exact ⟨_, hnames.frameworkName.framework, rfl⟩
  · exact ⟨_, hnames.frameworkName.archive, rfl⟩
  · refine ⟨_, ?_, hresolved.mergedLibrary_eq⟩
    split
    · next hgiven => exact hnames.mergedLibrary entries hentries hgiven
    · exact hnames.crate.mergedLibrary

structure Entries (c : Config) (locate : Path → Place) : Prop where
  entry : ∀ out ∈ c.outputs, ∃ name, locate out = locate c.outputDir ++ [name]
  injective : ∀ out ∈ c.outputs, ∀ out' ∈ c.outputs, locate out = locate out' → out = out'

theorem entries_of_layout {host : Host} {data : Value} {projectRoot : Path} {c : Config}
    (hc : Config.resolve host data projectRoot = .ok c) (hnames : c.NamesFiles data)
    {locate : Path → Place} (hlayout : c.Layout locate) : c.Entries locate where
  entry out hout := by
    obtain ⟨name, hname, rfl⟩ := exists_fileName_of_mem_outputs hc hnames hout
    exact ⟨hname.component, by rw [hlayout.inside name hname, hname.parse_eq]⟩
  injective out hout out' hout' heq := by
    obtain ⟨name, hname, rfl⟩ := exists_fileName_of_mem_outputs hc hnames hout
    obtain ⟨name', hname', rfl⟩ := exists_fileName_of_mem_outputs hc hnames hout'
    rw [hlayout.inside name hname, hlayout.inside name' hname', hname.parse_eq,
      hname'.parse_eq] at heq
    have hparts : [hname.component] = [hname'.component] := List.append_cancel_left heq
    rw [Path.div_eq_join, Path.div_eq_join, hname.parse_eq, hname'.parse_eq, hparts]

namespace Entries

variable {c : Config} {locate : Path → Place} {out out' : Path}

theorem dropLast (h : c.Entries locate) (hout : out ∈ c.outputs) :
    (locate out).dropLast = locate c.outputDir := by
  obtain ⟨name, hname⟩ := h.entry out hout
  simp [hname]

theorem length (h : c.Entries locate) (hout : out ∈ c.outputs) :
    (locate out).length = (locate c.outputDir).length + 1 := by
  obtain ⟨name, hname⟩ := h.entry out hout
  simp [hname]

theorem not_exists_prefix (h : c.Entries locate) {q : Place}
    (hq : q.length ≤ (locate c.outputDir).length) : ¬ ∃ out ∈ c.outputs, locate out <+: q := by
  rintro ⟨out, hout, hbegins⟩
  have hlength := h.length hout
  have hle := hbegins.length_le
  omega

theorem not_prefix_of_ne (h : c.Entries locate) (hout : out ∈ c.outputs) (hout' : out' ∈ c.outputs)
    (hne : out ≠ out') (rest : Place) : ¬ locate out <+: locate out' ++ rest := by
  intro hbegins
  have hlength := (h.length hout).trans (h.length hout').symm
  have hin := List.prefix_of_prefix_length_le hbegins (List.prefix_append _ _)
    (Nat.le_of_eq hlength)
  exact hne (h.injective out hout out' hout' (hin.eq_of_length hlength))

theorem not_prefix_bindings (h : c.Entries locate) (hlayout : c.Layout locate)
    (hout : out ∈ c.outputs) (rest : Place) : ¬ locate out <+: locate c.bindingsDir ++ rest := by
  intro hbegins
  rcases List.prefix_or_prefix_of_prefix hbegins (List.prefix_append _ _) with hin | hin
  · exact hlayout.bindings out hout hin
  · obtain ⟨name, hname⟩ := h.entry out hout
    rw [hname] at hin
    rcases List.prefix_concat_iff.mp hin with heq | hin
    · exact hlayout.bindings out hout (by simp [hname, heq])
    · exact hlayout.bindingsApart hin

end Entries

theorem namesFiles_usual (root : Path) (tools : Toolbox) : (usual root tools).NamesFiles .null where
  crate := by
    change IsFileName Setting.crate.default.plain
    decide +kernel
  frameworkName := by
    change IsFileName Setting.frameworkName.default.plain
    decide +kernel
  mergedLibrary entries hentries hgiven := by
    cases hentries
    cases hgiven

theorem outputs_usual (root : Path) (tools : Toolbox) : (usual root tools).outputs =
    [root / "buildIos" / "MLSrs.xcframework", root / "buildIos" / "MLSrs.xcframework.zip",
      root / "buildIos" / "libmls_rs_uniffi_ios_sim_combined.a"] :=
  rfl

theorem not_prefix_usual {root : Path} {tools : Toolbox} {out : Path}
    (hout : out ∈ (usual root tools).outputs) {name : String} (hname : IsFileName name)
    (hne : Path.parse "buildIos" ≠ Path.parse name) (rest : Place) :
    ¬ out.place <+: (root / name).place ++ rest := by
  have hdir : IsFileName "buildIos" := by decide +kernel
  obtain ⟨entry, hentry, rfl⟩ : ∃ entry, IsFileName entry ∧ out = root / "buildIos" / entry := by
    simp only [outputs_usual, List.mem_cons, List.not_mem_nil, or_false] at hout
    rcases hout with rfl | rfl | rfl <;> exact ⟨_, by decide +kernel, rfl⟩
  rw [Path.place_div _ hentry, Path.place_div _ hdir, Path.place_div _ hname, hdir.parse_eq,
    hname.parse_eq, hentry.parse_eq, List.append_assoc, List.append_assoc,
    List.prefix_append_right_inj, List.singleton_append, List.singleton_append,
    List.cons_prefix_cons]
  rintro ⟨heq, -⟩
  exact hne (by rw [hdir.parse_eq, hname.parse_eq, heq])

theorem layout_usual (root : Path) (tools : Toolbox) : (usual root tools).Layout Path.place where
  inside name hname := Path.place_div _ hname
  distinct := by
    have hne (name name' : String) (h : (Path.parse name).lead = .relative ∧
        (Path.parse name').lead = .relative ∧ Path.parse name ≠ Path.parse name') :
        root / "buildIos" / name ≠ root / "buildIos" / name' :=
      fun heq => h.2.2 (Path.join_left_cancel h.1 h.2.1 heq)
    have hFZ := hne "MLSrs.xcframework" "MLSrs.xcframework.zip" (by decide +kernel)
    have hFM := hne "MLSrs.xcframework" "libmls_rs_uniffi_ios_sim_combined.a" (by decide +kernel)
    have hZM := hne "MLSrs.xcframework.zip" "libmls_rs_uniffi_ios_sim_combined.a"
      (by decide +kernel)
    simp [outputs_usual, hFZ, hFM, hZM]
  libraries t ht out hout := by
    have htriple : ∀ t ∈ Target.defaults, IsFileName t.triple := by decide +kernel
    have hprofile : IsFileName "release" := by decide +kernel
    have hfile : IsFileName "libmls_rs_uniffi_ios.a" := by decide +kernel
    change ¬ out.place <+: (root / "target" / t.triple / "release" / "libmls_rs_uniffi_ios.a").place
    rw [Path.place_div _ hfile, Path.place_div _ hprofile, Path.place_div _ (htriple t ht),
      List.append_assoc, List.append_assoc]
    exact not_prefix_usual hout (by decide +kernel) (by decide +kernel) _
  bindings out hout := by
    have h : ¬ out.place <+: (root / "bindings").place ++ [] :=
      not_prefix_usual hout (by decide +kernel) (by decide +kernel) []
    rwa [List.append_nil] at h
  bindingsApart := by
    have hbindings : IsFileName "bindings" := by decide +kernel
    have hdir : IsFileName "buildIos" := by decide +kernel
    change ¬ (root / "bindings").place <+: (root / "buildIos").place
    rw [Path.place_div _ hbindings, Path.place_div _ hdir, List.prefix_append_right_inj]
    decide +kernel

end Config

end FrameworkForge

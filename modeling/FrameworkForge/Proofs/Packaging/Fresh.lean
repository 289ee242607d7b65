import FrameworkForge.Proofs.Packaging.Products
import FrameworkForge.Proofs.Packaging.Workshop

/-! A package run makes its outputs from the libraries and the headers alone. Whatever an earlier
run has left in the places of the outputs has no part in them. -/

namespace FrameworkForge.Build

open Config Recipe

def packageRun (c : Config) : List Stage :=
  [clean c, outputDir c, mergeSlices c (merging (simulatorLibraries c) c.mergedLibrary c.root),
    xcframework c (packaging [c.mergedLibrary, deviceLibrary c] c.bindingsDir
      (c.outputDir / c.framework) c.root),
    compressStage c, checksumStage c]

theorem selectNamed_packageStages {c : Config} {p : Pipeline} (hp : pipeline c = .ok p) :
    p.selectNamed packageStages = .ok (packageRun c) := by
  have hknown : packageStages.filter (fun name => name ∉ p.names) = [] := by
    rw [Pipeline.names, stages_of_pipeline hp, names_stages]
    decide
  rw [Pipeline.selectNamed, hknown, stages_of_pipeline hp]
  rfl

def packageCalls (c : Config) : List (Tool × Job) :=
  c.outputs.map (fun out => (.rm, .remove out)) ++
    [(.mkdir, .makeDirectory c.outputDir), (.lipo, .merge (simulatorLibraries c) c.mergedLibrary),
      (.xcodebuild, .package (slices c) c.container),
      (.zip, .compress c.archiveFile c.container), (.swift, .checksum c.archiveFile)]

theorem asks_of_jobs {c : Config} {tool : Tool} (jobs : List Job) {tasks : List Task}
    (hcalls : ∀ t ∈ tasks, Calls c tool t)
    (hjobs : tasks.map (Task.job? c.tools tool) = jobs.map some) :
    List.Forall₂ (Asks c) (jobs.map fun job => (tool, job)) tasks := by
  induction tasks generalizing jobs with
  | nil =>
    obtain rfl : jobs = [] := by simpa using hjobs.symm
    exact .nil
  | cons t tasks ih =>
    obtain ⟨hcall, hcalls⟩ := List.forall_mem_cons.mp hcalls
    cases jobs with
    | nil => simp at hjobs
    | cons job jobs =>
      obtain ⟨hjob, hjobs⟩ := List.cons_eq_cons.mp hjobs
      exact .cons ⟨hcall, hjob⟩ (ih jobs hcalls hjobs)

theorem asks_packageRun {host : Host} {entries : Value.Entries} {projectRoot : Path} {c : Config}
    (h : Resolved host entries projectRoot c) :
    List.Forall₂ (Asks c) (packageCalls c) ((packageRun c).flatMap Stage.tasks) := by
  have hclean : ∀ t ∈ (clean c).tasks, Calls c .rm t := by
    simp only [clean, List.forall_mem_map]
    exact fun _ _ => ⟨rfl, rfl⟩
  have hsingle {tool : Tool} {t : Task} (ht : Calls c tool t) : ∀ t' ∈ [t], Calls c tool t' :=
    fun _ ht' => List.mem_singleton.mp ht' ▸ ht
  refine List.rel_append (asks_of_jobs (c.outputs.map .remove) hclean (jobs_clean h)) ?_
  refine List.rel_append (asks_of_jobs [_] (hsingle ⟨rfl, rfl⟩) (jobs_outputDir h)) ?_
  refine List.rel_append (asks_of_jobs [_] (hsingle ⟨rfl, rfl⟩) (jobs_mergeSlices h)) ?_
  refine List.rel_append (asks_of_jobs [_] (hsingle ⟨rfl, rfl⟩) (jobs_xcframework h)) ?_
  refine List.rel_append (asks_of_jobs [_] (hsingle ⟨rfl, rfl⟩) (jobs_compress c)) ?_
  exact List.rel_append (asks_of_jobs [_] (hsingle ⟨rfl, rfl⟩) (jobs_checksum c)) .nil

section

variable {craft : Craft} {locate : Path → Place} {c : Config} {f g last : FileTree}
  {verdict : Verdict}

/-- Once the places of the outputs are free, the run comes to its end with all products in place,
or it stops because one of them cannot be made. -/
theorem carried_making (h : c.Entries locate) (hlayout : c.Layout locate)
    (hdirectory : f.node (locate c.outputDir) = some .directory)
    (hfree : ∀ out ∈ c.outputs, f.node (locate out) = none) (hsame : SameSources c locate f g)
    (hrun : Carried craft locate [(.lipo, .merge (simulatorLibraries c) c.mergedLibrary),
      (.xcodebuild, .package (slices c) c.container),
      (.zip, .compress c.archiveFile c.container), (.swift, .checksum c.archiveFile)] f verdict
      last) :
    (verdict = .complete ∧ ∃ o, products? craft locate c g = some o ∧ last = placed c locate f o) ∨
      verdict = .stopped ∧ products? craft locate c g = none := by
  obtain ⟨hF, hZ, hM⟩ := mem_outputs c
  obtain ⟨hFZ, hFM, hZM⟩ := outputs_ne hlayout.distinct
  rcases hrun.of_merge (hfree _ hM) with ⟨merged, hmerge, -, hrun⟩ | ⟨hstop, hnone⟩
  · rw [merged?_congr hlayout hsame] at hmerge
    have hdirectory₃ := node_outputDir_graft h hdirectory hM (.single merged)
    have hF₃ := below_other_graft h hdirectory hM hF hFM.symm (.single merged)
    have hZ₃ := below_other_graft h hdirectory hM hZ hZM.symm (.single merged)
    have hsame₃ := (sameSources_graft h hdirectory hM (.single merged)).trans hsame
    have hcontent := FileTree.content?_graft_single (fits_output h hdirectory hM (.single merged))
    have hpackage := packaged?_eq craft h hlayout hsame₃ hcontent
    rcases hrun.of_package ((FileTree.node_eq_of_below_eq hF₃).trans (hfree _ hF))
      (by rwa [h.dropLast hF]) with ⟨container, hcontainer, hrun⟩ | ⟨hstop, hnone⟩
    · rw [hpackage] at hcontainer
      have hdirectory₄ := node_outputDir_graft h hdirectory₃ hF container
      have hZ₄ := (below_other_graft h hdirectory₃ hF hZ hFZ container).trans hZ₃
      have hbelow := FileTree.below_graft_self (fits_output h hdirectory₃ hF container)
      rcases hrun.of_compress ((FileTree.node_eq_of_below_eq hZ₄).trans (hfree _ hZ))
        (by rwa [h.dropLast hZ]) with ⟨archive, harchive, hrun⟩ | ⟨hstop, hnone⟩
      · rw [hbelow] at harchive
        have hfits := fits_output h hdirectory₄ hZ (.single archive)
        have hbytes := FileTree.content?_graft_single hfits
        rcases hrun.of_checksum hbytes with ⟨hsums, hverdict, hlast⟩ | ⟨hsums, hstop⟩
        · exact .inl ⟨hverdict, ⟨merged, container, archive⟩,
            by simp [products?, hmerge, hcontainer, harchive, hsums], hlast⟩
        · exact .inr ⟨hstop, by simp [products?, hmerge, hcontainer, harchive, hsums]⟩
      · rw [hbelow] at hnone
        exact .inr ⟨hstop, by simp [products?, hmerge, hcontainer, hnone]⟩
    · rw [hpackage] at hnone
      exact .inr ⟨hstop, by simp [products?, hmerge, hnone]⟩
  · have hmerge := hnone (by rwa [h.dropLast hM])
    rw [merged?_congr hlayout hsame] at hmerge
    exact .inr ⟨hstop, by simp [products?, hmerge]⟩

theorem carried_packageCalls (h : c.Entries locate) (hlayout : c.Layout locate)
    (hparent : f.node (locate c.outputDir).dropLast = some .directory)
    (hrun : Carried craft locate (packageCalls c) f verdict last) :
    (f.content? (locate c.outputDir) = none ∧ verdict = .complete ∧
      ∃ o, products? craft locate c f = some o ∧ Delivered o c locate f last) ∨
    verdict = .stopped ∧
      (f.content? (locate c.outputDir) = none → products? craft locate c f = none) := by
  have hmaking := hrun.of_removes.of_makeDirectory (node_cleared_parent h hparent)
  have hfree : ∀ out ∈ c.outputs, (prepared c locate f).node (locate out) = none :=
    fun _ hout => node_prepared_output h hparent hout
  by_cases hcontent : f.content? (locate c.outputDir) = none
  · have hdirectory := node_prepared_of_content? h hparent hcontent
    have hsame := sameSources_prepared h hparent
    rcases carried_making h hlayout hdirectory hfree hsame hmaking with
      ⟨hverdict, o, ho, rfl⟩ | ⟨hstop, hnone⟩
    · have hd := delivered_placed h hlayout.distinct hdirectory hsame o
      exact .inl ⟨hcontent, hverdict, o, ho, hd⟩
    · exact .inr ⟨hstop, fun _ => hnone⟩
  · obtain ⟨-, -, hM⟩ := mem_outputs c
    obtain ⟨bytes, hbytes⟩ := Option.ne_none_iff_exists'.mp hcontent
    rcases hmaking.of_merge (hfree _ hM) with ⟨merged, -, hdirectory, -⟩ | ⟨hstop, -⟩
    · rw [h.dropLast hM] at hdirectory
      change (prepared c locate f).node _ = _ at hdirectory
      rw [node_prepared_outputDir h hparent, FileTree.node_of_content? hbytes] at hdirectory
      simp at hdirectory
    · exact .inr ⟨hstop, fun hnone => absurd hnone hcontent⟩

end

theorem carried_packageRun {host : Host} {data : Value} {projectRoot : Path} {c : Config}
    {p : Pipeline} (hc : Config.resolve host data projectRoot = .ok c) (hp : pipeline c = .ok p)
    {locate : Path → Place} {σ : Type} {craft : Craft} {processes : Processes σ}
    {files : σ → FileTree} (hserves : Serves c.tools craft locate processes files) (s : σ) :
    let ran := p.runStages host processes .real (packageRun c) s
    Carried craft locate (packageCalls c) (files s) ran.value (files ran.state) := by
  obtain ⟨entries, -, hresolved⟩ := resolve_eq_ok_iff.mp hc
  have hsub := Pipeline.subset_of_selectNamed (selectNamed_packageStages hp)
  obtain ⟨made, h⟩ := Pipeline.exists_executed_runReal p host processes (packageRun c) hsub s
  exact carried_of_executed hserves (asks_packageRun hresolved) h

/-- A package run is decided by the libraries, the headers and whether the output directory can be
one. When it is complete, its outputs are made of the libraries and the headers; whatever was in
the places of the outputs before is not told apart, neither by the code nor by the tree. -/
theorem package_run_fresh {host : Host} {data : Value} {projectRoot : Path} {c : Config}
    {p : Pipeline} (hc : Config.resolve host data projectRoot = .ok c) (hp : pipeline c = .ok p)
    (hnames : c.NamesFiles data) {locate : Path → Place} (hlayout : c.Layout locate) {σ : Type}
    {craft : Craft} {processes : Processes σ} {files : σ → FileTree}
    (hserves : Serves c.tools craft locate processes files) {s s' : σ}
    (hparent : (files s).node (locate c.outputDir).dropLast = some .directory)
    (hparent' : (files s').node (locate c.outputDir).dropLast = some .directory)
    (hsame : SameSources c locate (files s) (files s')) :
    ∃ selected, p.selectNamed packageStages = .ok selected ∧
      let ran := p.runStages host processes .real selected s
      let ran' := p.runStages host processes .real selected s'
      (ran.value.code = .ok 0 ↔ (files s).content? (locate c.outputDir) = none ∧
        ∃ o, products? craft locate c (files s) = some o) ∧
      (ran.value.code = .ok 0 → ∃ o, products? craft locate c (files s) = some o ∧
        Delivered o c locate (files s) (files ran.state)) ∧
      ran'.value = ran.value ∧ (ran.value.code = .ok 0 → files ran'.state = files ran.state) := by
  refine ⟨packageRun c, selectNamed_packageStages hp, ?_⟩
  intro ran ran'
  have h := entries_of_layout hc hnames hlayout
  have hproducts : products? craft locate c (files s) = products? craft locate c (files s') :=
    products?_congr h hlayout hsame
  have hrun := carried_packageCalls h hlayout hparent (carried_packageRun hc hp hserves s)
  have hrun' := carried_packageCalls h hlayout hparent' (carried_packageRun hc hp hserves s')
  rw [← hsame.outputDir, ← hproducts] at hrun'
  rcases hrun with ⟨hnone, hvalue, o, ho, hd⟩ | ⟨hvalue, hnot⟩
  · have hcode : ran.value.code = .ok 0 := congrArg Verdict.code hvalue
    rcases hrun' with ⟨-, hvalue', o', ho', hd'⟩ | ⟨-, hnot'⟩
    · obtain rfl : o = o' := Option.some_inj.mp (ho.symm.trans ho')
      exact ⟨⟨fun _ => ⟨hnone, o, ho⟩, fun _ => hcode⟩, fun _ => ⟨o, ho, hd⟩,
        hvalue'.trans hvalue.symm, fun _ => (hd.unique hsame hd').symm⟩
    · simp [hnot' hnone] at ho
  · have hcode : ran.value.code = .ok 1 := congrArg Verdict.code hvalue
    have hne : ran.value.code ≠ .ok 0 := by simp [hcode]
    rcases hrun' with ⟨hnone, -, o', ho', -⟩ | ⟨hvalue', -⟩
    · simp [hnot hnone] at ho'
    · refine ⟨⟨fun hzero => absurd hzero hne, ?_⟩, fun hzero => absurd hzero hne,
        hvalue'.trans hvalue.symm, fun hzero => absurd hzero hne⟩
      rintro ⟨hnone, o, ho⟩
      simp [hnot hnone] at ho

/-- Libraries are joined, a container is its headers, and an old archive stays in the new one. -/
def joiningCraft : Craft where
  merge _ contents := some contents.flatten
  package _ _ headers := headers.head?
  archive _ old tree :=
    some (old.getD [] ++ (tree.content? (Path.parse "api.h").place).getD [])
  sums _ _ := true

def placeOf (names : List String) : Place :=
  names.filterMap Component.ofString?

/-- The libraries and headers of a project, and outputs that something else has left. -/
def staleFiles : List (Place × List UInt8) :=
  [(placeOf ["project", "target", "aarch64-apple-ios-sim", "release", "libmls_rs_uniffi_ios.a"], [1]),
    (placeOf ["project", "target", "aarch64-apple-ios", "release", "libmls_rs_uniffi_ios.a"], [2]),
    (placeOf ["project", "target", "x86_64-apple-ios", "release", "libmls_rs_uniffi_ios.a"], [3]),
    (placeOf ["project", "bindings", "api.h"], [4]),
    (placeOf ["project", "buildIos", "MLSrs.xcframework", "Info.plist"], [5]),
    (placeOf ["project", "buildIos", "MLSrs.xcframework.zip"], [6]),
    (placeOf ["project", "buildIos", "libmls_rs_uniffi_ios_sim_combined.a"], [7])]

theorem apart_staleFiles : ∀ a ∈ staleFiles, ∀ b ∈ staleFiles, a.1 <+: b.1 → a.1 = b.1 := by
  decide +kernel

def staleProject : FileTree :=
  .ofFiles staleFiles apart_staleFiles

theorem exists_products_staleProject (tools : Toolbox) :
    ∃ o, products? joiningCraft Path.place (usual (Path.parse "/project") tools) staleProject =
      some o := by
  have hmerged : joiningCraft.merged? Path.place staleProject
      (simulatorLibraries (usual (Path.parse "/project") tools)) = some [1, 3] := by
    have hcontents : staleProject.contents?
        [(Path.parse "/project" / "target" / "aarch64-apple-ios-sim" / "release" /
            "libmls_rs_uniffi_ios.a").place,
          (Path.parse "/project" / "target" / "x86_64-apple-ios" / "release" /
            "libmls_rs_uniffi_ios.a").place] = some [[1], [3]] := by
      decide +kernel
    exact congrArg (Option.bind · _) hcontents
  have hdevice : staleProject.content?
      (deviceLibrary (usual (Path.parse "/project") tools)).place = some [2] := by
    change staleProject.content? (Path.parse "/project" / "target" / "aarch64-apple-ios" /
      "release" / "libmls_rs_uniffi_ios.a").place = some [2]
    decide +kernel
  rw [products?, hmerged]
  simp only [container?, hdevice]
  exact ⟨_, rfl⟩

theorem package_run_fresh_usual :
    ∃ c p selected, Config.resolve Host.plain .null (Path.parse "/project") = .ok c ∧
      pipeline c = .ok p ∧ p.selectNamed packageStages = .ok selected ∧
      let processes := workshop joiningCraft Path.place
      let ran := p.runStages Host.plain processes .real selected staleProject
      let ran' := p.runStages Host.plain processes .real selected
        (staleProject.clear (c.outputs.map Path.place))
      ran.value.code = .ok 0 ∧ ran'.value = ran.value ∧ ran'.state = ran.state ∧
        ∃ o, products? joiningCraft Path.place c staleProject = some o ∧
          Delivered o c Path.place staleProject ran.state := by
  have hparent : staleProject.node (Path.parse "/project" / "buildIos").place.dropLast =
      some .directory := by
    decide +kernel
  have hcontent : staleProject.content? (Path.parse "/project" / "buildIos").place = none := by
    decide +kernel
  obtain ⟨tools, hc, hcalled⟩ := exists_resolve_plain (Path.parse "/project") rfl (by decide)
  have hp := pipeline_of_buildable (buildable_usual (Path.parse "/project") tools)
  have hlayout := layout_usual (Path.parse "/project") tools
  have h := entries_of_layout hc (namesFiles_usual _ _) hlayout
  obtain ⟨selected, hselected, hiff, hdelivered, hvalue, hstate⟩ :=
    package_run_fresh hc hp (namesFiles_usual _ _) hlayout
      (serves_workshop hcalled joiningCraft Path.place) hparent (node_cleared_parent h hparent)
      (sameSources_cleared h staleProject)
  have hcode := hiff.mpr ⟨hcontent, exists_products_staleProject tools⟩
  exact ⟨_, _, selected, hc, hp, hselected, hcode, hvalue, hstate hcode, hdelivered hcode⟩

end FrameworkForge.Build

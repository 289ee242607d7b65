import FrameworkForge.Proofs.Packaging.Layout

/-! What a package run makes of the libraries and the headers, and what its jobs come to on a tree
with any outputs in it. -/

namespace FrameworkForge

structure Products where
  merged : List UInt8
  container : FileTree
  archive : List UInt8

namespace Build

open Config

def slices (c : Config) : List (Path × Path) :=
  [(c.mergedLibrary, c.bindingsDir), (deviceLibrary c, c.bindingsDir)]

/-- The container of a merged library, with the device library and the headers of a tree. -/
def container? (craft : Craft) (locate : Path → Place) (c : Config) (f : FileTree)
    (merged : List UInt8) : Option FileTree :=
  let headers := f.below (locate c.bindingsDir)
  craft.package (slices c) [some merged, f.content? (locate (deviceLibrary c))] [headers, headers]

/-- The products of the libraries and headers of a tree. The archive is made without an old one,
and it has to have a checksum. -/
def products? (craft : Craft) (locate : Path → Place) (c : Config) (f : FileTree) :
    Option Products := do
  let merged ← craft.merged? locate f (simulatorLibraries c)
  let container ← container? craft locate c f merged
  let archive ← craft.archive c.container none container
  if craft.sums c.archiveFile archive then some ⟨merged, container, archive⟩ else none

/-- After the run the products are in the places of the outputs, and all else is as before. -/
structure Delivered (o : Products) (c : Config) (locate : Path → Place) (before after : FileTree) :
    Prop where
  merged : after.content? (locate c.mergedLibrary) = some o.merged
  container : after.below (locate c.container) = o.container
  archive : after.content? (locate c.archiveFile) = some o.archive
  outputDir : after.node (locate c.outputDir) = some .directory
  elsewhere : ∀ q, q ≠ locate c.outputDir → (∀ out ∈ c.outputs, ¬ locate out <+: q) →
    after.node q = before.node q

/-- The trees differ at most in the outputs and in whether the output directory is there yet. -/
structure SameSources (c : Config) (locate : Path → Place) (f g : FileTree) : Prop where
  outputDir : f.content? (locate c.outputDir) = g.content? (locate c.outputDir)
  elsewhere : ∀ q, q ≠ locate c.outputDir → (∀ out ∈ c.outputs, ¬ locate out <+: q) →
    f.node q = g.node q

variable {craft : Craft} {locate : Path → Place} {c : Config} {f g last : FileTree}

theorem SameSources.trans {h : FileTree} (hfg : SameSources c locate f g)
    (hgh : SameSources c locate g h) : SameSources c locate f h where
  outputDir := hfg.outputDir.trans hgh.outputDir
  elsewhere q hne hq := (hfg.elsewhere q hne hq).trans (hgh.elsewhere q hne hq)

/-- Products and what is elsewhere make up the whole tree. -/
theorem Delivered.unique {o : Products} {after after' : FileTree}
    (hsame : SameSources c locate f g) (hd : Delivered o c locate f after)
    (hd' : Delivered o c locate g after') : after = after' := by
  have houtput : ∀ out ∈ c.outputs, after.below (locate out) = after'.below (locate out) := by
    simp only [outputs, List.forall_mem_cons, List.not_mem_nil, false_imp_iff, implies_true,
      and_true]
    refine ⟨hd.container.trans hd'.container.symm, ?_, ?_⟩
    · exact (FileTree.below_of_content? hd.archive).trans
        (FileTree.below_of_content? hd'.archive).symm
    · exact (FileTree.below_of_content? hd.merged).trans
        (FileTree.below_of_content? hd'.merged).symm
  refine FileTree.ext fun q => ?_
  by_cases hin : ∃ out ∈ c.outputs, locate out <+: q
  · obtain ⟨out, hout, rest, rfl⟩ := hin
    exact congrArg (fun t => t.node rest) (houtput out hout)
  · have hq : ∀ out ∈ c.outputs, ¬ locate out <+: q := by simpa using hin
    by_cases hdir : q = locate c.outputDir
    · rw [hdir, hd.outputDir, hd'.outputDir]
    · rw [hd.elsewhere q hdir hq, hd'.elsewhere q hdir hq]
      exact hsame.elsewhere q hdir hq

theorem content?_library (hlayout : c.Layout locate) (hsame : SameSources c locate f g)
    {t : Target} (ht : t ∈ c.targets.targets) :
    f.content? (locate (t.releaseLibrary c.targetDir c.crate.plain)) =
      g.content? (locate (t.releaseLibrary c.targetDir c.crate.plain)) := by
  by_cases hdir : locate (t.releaseLibrary c.targetDir c.crate.plain) = locate c.outputDir
  · rw [hdir]
    exact hsame.outputDir
  · rw [FileTree.content?, FileTree.content?, hsame.elsewhere _ hdir (hlayout.libraries t ht)]

theorem below_bindingsDir (h : c.Entries locate) (hlayout : c.Layout locate)
    (hsame : SameSources c locate f g) :
    f.below (locate c.bindingsDir) = g.below (locate c.bindingsDir) := by
  refine FileTree.ext fun rest => hsame.elsewhere _ ?_ ?_
  · exact fun heq => hlayout.bindingsApart (heq ▸ List.prefix_append _ _)
  · exact fun out hout => h.not_prefix_bindings hlayout hout rest

theorem merged?_congr (hlayout : c.Layout locate) (hsame : SameSources c locate f g) :
    craft.merged? locate f (simulatorLibraries c) =
      craft.merged? locate g (simulatorLibraries c) := by
  have hcontents : f.contents? ((simulatorLibraries c).map locate) =
      g.contents? ((simulatorLibraries c).map locate) := by
    refine FileTree.contents?_congr ?_
    simp only [simulatorLibraries, List.map_map, List.forall_mem_map]
    exact fun t ht => content?_library hlayout hsame (List.mem_of_mem_filter ht)
  rw [Craft.merged?, Craft.merged?, hcontents]

theorem device_mem (targets : TargetList) : targets.device ∈ targets.targets :=
  List.mem_of_mem_filter (List.head_mem targets.devices_ne_nil)

theorem container?_congr (h : c.Entries locate) (hlayout : c.Layout locate)
    (hsame : SameSources c locate f g) (merged : List UInt8) :
    container? craft locate c f merged = container? craft locate c g merged := by
  have hdevice : f.content? (locate (deviceLibrary c)) = g.content? (locate (deviceLibrary c)) :=
    content?_library hlayout hsame (device_mem c.targets)
  simp only [container?, hdevice, below_bindingsDir h hlayout hsame]

theorem products?_congr (h : c.Entries locate) (hlayout : c.Layout locate)
    (hsame : SameSources c locate f g) :
    products? craft locate c f = products? craft locate c g := by
  simp only [products?, merged?_congr hlayout hsame, container?_congr h hlayout hsame]

theorem packaged?_eq (craft : Craft) (h : c.Entries locate) (hlayout : c.Layout locate)
    (hsame : SameSources c locate g f) {merged : List UInt8}
    (hmerged : g.content? (locate c.mergedLibrary) = some merged) :
    craft.packaged? locate g (slices c) = container? craft locate c f merged := by
  rw [← container?_congr h hlayout hsame]
  simp only [Craft.packaged?, container?, slices, List.map_cons, List.map_nil, hmerged]

/-- The tree once the outputs are removed and the output directory is made. -/
def prepared (c : Config) (locate : Path → Place) (f : FileTree) : FileTree :=
  (f.clear (c.outputs.map locate)).withDirectory (locate c.outputDir)

theorem node_cleared (c : Config) (locate : Path → Place) (f : FileTree) (q : Place) :
    (f.clear (c.outputs.map locate)).node q =
      if ∃ out ∈ c.outputs, locate out <+: q then none else f.node q := by
  simp [FileTree.node_clear]

theorem node_cleared_short (h : c.Entries locate) {q : Place}
    (hq : q.length ≤ (locate c.outputDir).length) :
    (f.clear (c.outputs.map locate)).node q = f.node q := by
  rw [node_cleared, if_neg (h.not_exists_prefix hq)]

theorem node_cleared_parent (h : c.Entries locate)
    (hparent : f.node (locate c.outputDir).dropLast = some .directory) :
    (f.clear (c.outputs.map locate)).node (locate c.outputDir).dropLast = some .directory := by
  rw [node_cleared_short h (by simp), hparent]

theorem sameSources_cleared (h : c.Entries locate) (f : FileTree) :
    SameSources c locate f (f.clear (c.outputs.map locate)) where
  outputDir := by
    rw [FileTree.content?, FileTree.content?, node_cleared_short h (Nat.le_refl _)]
  elsewhere q _ hq := by
    rw [node_cleared, if_neg (by simpa using hq)]

theorem node_prepared (h : c.Entries locate)
    (hparent : f.node (locate c.outputDir).dropLast = some .directory) (q : Place) :
    (prepared c locate f).node q =
      if ∃ out ∈ c.outputs, locate out <+: q then none
      else if q = locate c.outputDir ∧ f.node q = none then some .directory
      else f.node q := by
  have hfree := h.not_exists_prefix (Nat.le_refl _)
  rw [prepared, FileTree.node_withDirectory (node_cleared_parent h hparent),
    node_cleared_short h (Nat.le_refl _), node_cleared]
  by_cases hq : q = locate c.outputDir
  · subst hq
    simp only [true_and, hfree, if_false]
  · simp [hq]

theorem node_prepared_output (h : c.Entries locate)
    (hparent : f.node (locate c.outputDir).dropLast = some .directory) {out : Path}
    (hout : out ∈ c.outputs) : (prepared c locate f).node (locate out) = none := by
  rw [node_prepared h hparent, if_pos ⟨out, hout, List.prefix_refl _⟩]

theorem node_prepared_outputDir (h : c.Entries locate)
    (hparent : f.node (locate c.outputDir).dropLast = some .directory) :
    (prepared c locate f).node (locate c.outputDir) =
      if f.node (locate c.outputDir) = none then some .directory
      else f.node (locate c.outputDir) := by
  rw [node_prepared h hparent, if_neg (h.not_exists_prefix (Nat.le_refl _))]
  simp

/-- Only a file in the place of the output directory keeps it from being there. -/
theorem node_prepared_of_content? (h : c.Entries locate)
    (hparent : f.node (locate c.outputDir).dropLast = some .directory)
    (hcontent : f.content? (locate c.outputDir) = none) :
    (prepared c locate f).node (locate c.outputDir) = some .directory := by
  rw [node_prepared_outputDir h hparent]
  rw [FileTree.content?] at hcontent
  cases hnode : f.node (locate c.outputDir) with
  | none => simp
  | some node =>
    cases node with
    | directory => simp
    | file bytes => simp [hnode] at hcontent

theorem sameSources_prepared (h : c.Entries locate)
    (hparent : f.node (locate c.outputDir).dropLast = some .directory) :
    SameSources c locate (prepared c locate f) f where
  outputDir := by
    rw [FileTree.content?, FileTree.content?, node_prepared_outputDir h hparent]
    by_cases hnone : f.node (locate c.outputDir) = none <;> simp [hnone]
  elsewhere q hne hq := by
    rw [node_prepared h hparent, if_neg (by simpa using hq), if_neg (by simp [hne])]

theorem fits_output (h : c.Entries locate)
    (hdirectory : f.node (locate c.outputDir) = some .directory) {out : Path}
    (hout : out ∈ c.outputs) (sub : FileTree) : f.Fits (locate out) sub :=
  FileTree.fits_of_directory (by rwa [h.dropLast hout])

theorem node_outputDir_graft (h : c.Entries locate)
    (hdirectory : f.node (locate c.outputDir) = some .directory) {out : Path}
    (hout : out ∈ c.outputs) (sub : FileTree) :
    (f.graft (locate out) sub).node (locate c.outputDir) = some .directory := by
  rwa [FileTree.node_graft_outside (fits_output h hdirectory hout sub)]
  exact fun hbegins => h.not_exists_prefix (Nat.le_refl _) ⟨out, hout, hbegins⟩

theorem below_other_graft (h : c.Entries locate)
    (hdirectory : f.node (locate c.outputDir) = some .directory) {out out' : Path}
    (hout : out ∈ c.outputs) (hout' : out' ∈ c.outputs) (hne : out ≠ out') (sub : FileTree) :
    (f.graft (locate out) sub).below (locate out') = f.below (locate out') :=
  FileTree.ext fun rest => FileTree.node_graft_outside (fits_output h hdirectory hout sub)
    (h.not_prefix_of_ne hout hout' hne rest)

theorem sameSources_graft (h : c.Entries locate)
    (hdirectory : f.node (locate c.outputDir) = some .directory) {out : Path}
    (hout : out ∈ c.outputs) (sub : FileTree) :
    SameSources c locate (f.graft (locate out) sub) f where
  outputDir := by
    rw [FileTree.content?, FileTree.content?, node_outputDir_graft h hdirectory hout sub,
      hdirectory]
  elsewhere _ _ hq := FileTree.node_graft_outside (fits_output h hdirectory hout sub) (hq out hout)

def placed (c : Config) (locate : Path → Place) (f : FileTree) (o : Products) : FileTree :=
  ((f.graft (locate c.mergedLibrary) (.single o.merged)).graft (locate c.container)
    o.container).graft (locate c.archiveFile) (.single o.archive)

theorem delivered_placed (h : c.Entries locate) (hdistinct : c.outputs.Nodup)
    (hdirectory : f.node (locate c.outputDir) = some .directory)
    (hsame : SameSources c locate f g) (o : Products) :
    Delivered o c locate g (placed c locate f o) := by
  obtain ⟨hF, hZ, hM⟩ := mem_outputs c
  obtain ⟨hFZ, hFM, hZM⟩ := outputs_ne hdistinct
  have hmerged := node_outputDir_graft h hdirectory hM (.single o.merged)
  have hpackaged := node_outputDir_graft h hmerged hF o.container
  have hfits := fits_output h hpackaged hZ (.single o.archive)
  have hplaced := ((sameSources_graft h hpackaged hZ (.single o.archive)).trans
    (sameSources_graft h hmerged hF o.container)).trans
    (sameSources_graft h hdirectory hM (.single o.merged))
  exact {
    merged := by
      have hlater := (below_other_graft h hpackaged hZ hM hZM (.single o.archive)).trans
        (below_other_graft h hmerged hF hM hFM o.container)
      rw [placed, FileTree.content?_eq_of_below_eq hlater]
      exact FileTree.content?_graft_single (fits_output h hdirectory hM _)
    container := by
      rw [placed, below_other_graft h hpackaged hZ hF hFZ.symm]
      exact FileTree.below_graft_self (fits_output h hmerged hF _)
    archive := FileTree.content?_graft_single hfits
    outputDir := node_outputDir_graft h hpackaged hZ _
    elsewhere := (hplaced.trans hsame).elsewhere }

end Build

end FrameworkForge

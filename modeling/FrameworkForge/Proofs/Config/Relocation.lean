import FrameworkForge.Proofs.Config.Usual
import FrameworkForge.Proofs.Path.Moved

/-! Configurations at another root. Settings that bring no place of their own keep all places of a
configuration within its root, and at another root they resolve to the same configuration moved
there. -/

namespace FrameworkForge

open FrameworkForge.Path

/-- An absolute path with one slash in front, without steps to the parent. Like every path to a
directory it has no null character in it. -/
structure Path.IsStraight (p : Path) : Prop where
  lead : p.lead = .root
  plain : p.IsPlain

namespace Config

/-- The configuration of the project at another root. -/
def movedTo (c : Config) (root' : Path) : Config :=
  { c with
    root := root'
    outputDir := c.outputDir.moved c.root root'
    bindingsDir := c.bindingsDir.moved c.root root'
    targetDir := c.targetDir.moved c.root root'
    mergedLibrary := c.mergedLibrary.moved c.root root' }

/-- All places of the configuration are within its root, and its names lead on from there. -/
structure Rooted (c : Config) : Prop where
  outputDir : c.outputDir.IsWithin c.root
  bindingsDir : c.bindingsDir.IsWithin c.root
  targetDir : c.targetDir.IsWithin c.root
  mergedLibrary : c.mergedLibrary.IsWithin c.root
  frameworkName : LeadsOn c.frameworkName.plain
  crate : LeadsOn c.crate.plain
  moduleMapName : LeadsOn c.moduleMapName.plain
  triples : ∀ t ∈ c.targets.targets, LeadsOn t.triple

namespace Rooted

variable {c : Config}

theorem leadsOn_framework (h : c.Rooted) : LeadsOn c.framework :=
  h.frameworkName.append (by decide)

theorem leadsOn_archive (h : c.Rooted) : LeadsOn c.archive :=
  h.leadsOn_framework.append (by decide)

theorem leadsOn_generatedModuleMap (h : c.Rooted) :
    LeadsOn (Artifact.generatedModuleMap c.crate.plain) :=
  h.crate.append (by decide)

theorem leadsOn_dynamicLibrary (h : c.Rooted) :
    LeadsOn (Artifact.dynamicLibrary c.crate.plain) := by
  have hfront : LeadsOn ("lib" ++ c.crate.plain) := LeadsOn.append (by decide) h.crate
  exact hfront.append (by decide)

theorem leadsOn_staticLibrary (h : c.Rooted) :
    LeadsOn (Artifact.staticLibrary c.crate.plain) := by
  have hfront : LeadsOn ("lib" ++ c.crate.plain) := LeadsOn.append (by decide) h.crate
  exact hfront.append (by decide)

theorem isWithin_folder (h : c.Rooted) {t : Target} (ht : t ∈ c.targets.targets) :
    (c.targetDir / t.triple / "release").IsWithin c.root :=
  (h.targetDir.div (h.triples t ht)).div (by decide)

theorem isWithin_releaseLibrary (h : c.Rooted) {t : Target} (ht : t ∈ c.targets.targets) :
    (t.releaseLibrary c.targetDir c.crate.plain).IsWithin c.root :=
  (h.isWithin_folder ht).div h.leadsOn_staticLibrary

theorem moved_releaseLibrary (h : c.Rooted) {t : Target} (ht : t ∈ c.targets.targets)
    (root' : Path) : (t.releaseLibrary c.targetDir c.crate.plain).moved c.root root' =
      t.releaseLibrary (c.targetDir.moved c.root root') c.crate.plain := by
  simp only [Target.releaseLibrary, Target.library]
  rw [moved_div (h.isWithin_folder ht) h.leadsOn_staticLibrary,
    moved_div (h.targetDir.div (h.triples t ht)) (by decide),
    moved_div h.targetDir (h.triples t ht)]

end Rooted

/-- Settings that bring no place of their own. Directories are relative and do not lead up, and
neither a name nor a triple begins with a slash. -/
structure Portable (entries : Value.Entries) : Prop where
  directories : ∀ setting ∈ [Setting.outputDir, .bindingsDir, .targetDir],
    LeadsOn (Setting.inForce entries setting).plain ∧
      Component.parent ∉ (parse (Setting.inForce entries setting).plain).parts
  names : ∀ setting ∈ [Setting.mergedLibrary, .frameworkName, .crate, .moduleMapName],
    LeadsOn (Setting.inForce entries setting).plain
  triples : ∀ list, targetList entries = .ok list → ∀ t ∈ list.targets, LeadsOn t.triple

open Checks

/-- The merged library has one name in whatever directory. -/
theorem exists_name_of_mergedLibraryIn {dir library : Path} {given crate : Value}
    (h : mergedLibraryIn dir given crate = .ok library) :
    ∃ name, (LeadsOn given.plain → LeadsOn crate.plain → LeadsOn name) ∧ library = dir / name ∧
      ∀ dir', mergedLibraryIn dir' given crate = .ok (dir' / name) := by
  rw [mergedLibraryIn] at h
  split at h
  · next hgiven =>
    obtain ⟨htext, hwritable, rfl⟩ := fileIn_eq_ok_iff.mp h
    refine ⟨given.plain, fun hon _ => hon, rfl, fun dir' => ?_⟩
    rw [mergedLibraryIn, if_pos hgiven]
    exact fileIn_eq_ok_iff.mpr ⟨htext, hwritable, rfl⟩
  · next hgiven =>
    obtain ⟨text, hwritten, h⟩ := bind_eq_ok_iff.mp h
    cases h
    obtain ⟨-, rfl⟩ := Value.written_eq_ok_iff.mp hwritten
    refine ⟨Artifact.mergedLibrary crate.plain, fun _ hcrate => ?_, rfl, fun dir' => ?_⟩
    · have hfront : LeadsOn ("lib" ++ crate.plain) := LeadsOn.append (by decide) hcrate
      exact hfront.append (by decide)
    · rw [mergedLibraryIn, if_neg hgiven]
      exact bind_eq_ok_iff.mpr ⟨_, hwritten, rfl⟩

section

variable {host : Host} {entries : Value.Entries} {root root' : Path} {c : Config}

theorem directoryIn_eq_ok_iff (hlinks : host.links = []) (hroot : root.IsStraight) {value : Value}
    (hon : LeadsOn value.plain) (hup : Component.parent ∉ (parse value.plain).parts)
    {dir : Path} : directoryIn host root value = .ok dir ↔
      value.isWritable = true ∧ (parse value.plain).IsPlain ∧ dir = root / value.plain := by
  have hjoin : root / value.plain = ⟨root.lead, root.parts ++ (parse value.plain).parts⟩ :=
    join_of_relative root (leadsOn_iff.mp hon)
  have hlead : (root / value.plain).lead = .root := by rw [hjoin, hroot.lead]
  have hparent : Component.parent ∉ (root / value.plain).parts := by
    simp [hjoin, hroot.plain.parent_not_mem, hup]
  have hplain : (root / value.plain).IsPlain ↔ (parse value.plain).IsPlain := by
    refine ⟨fun h c hc => h c (by simp [hjoin, hc]), fun h => hroot.plain.join h⟩
  simp only [directoryIn, bind_eq_ok_iff, Value.written_eq_ok_iff]
  constructor
  · rintro ⟨_, ⟨hwritable, rfl⟩, h⟩
    obtain ⟨hp, hdir⟩ := (Host.resolve_eq_ok_iff_self hlinks hlead hparent).mp h
    exact ⟨hwritable, hplain.mp hp, hdir⟩
  · rintro ⟨hwritable, hp, rfl⟩
    refine ⟨_, ⟨hwritable, rfl⟩, ?_⟩
    exact (Host.resolve_eq_ok_iff_self hlinks hlead hparent).mpr ⟨hplain.mpr hp, rfl⟩

theorem directoryIn_moved (hlinks : host.links = []) (hroot : root.IsStraight)
    (hroot' : root'.IsStraight) {value : Value} (hon : LeadsOn value.plain)
    (hup : Component.parent ∉ (parse value.plain).parts) {dir : Path}
    (h : directoryIn host root value = .ok dir) :
    dir.IsWithin root ∧ directoryIn host root' value = .ok (dir.moved root root') := by
  obtain ⟨hwritable, hplain, rfl⟩ := (directoryIn_eq_ok_iff hlinks hroot hon hup).mp h
  refine ⟨(isWithin_self root).div hon, ?_⟩
  rw [moved_div (isWithin_self root) hon, moved_base]
  exact (directoryIn_eq_ok_iff hlinks hroot' hon hup).mpr ⟨hwritable, hplain, rfl⟩

theorem Resolved.root_eq (h : Resolved host entries root c) (hlinks : host.links = [])
    (hroot : root.IsStraight) : c.root = root :=
  Except.ok.inj (h.root.symm.trans (Host.resolve_self hlinks hroot.lead hroot.plain))

/-- A project with portable settings lies within its root, and resolves at any other root. -/
theorem Resolved.moves (h : Resolved host entries root c) (hlinks : host.links = [])
    (hportable : Portable entries) (hroot : root.IsStraight) (hroot' : root'.IsStraight) :
    c.Rooted ∧ Resolved host entries root' (c.movedTo root') := by
  obtain rfl := h.root_eq hlinks hroot
  have hdirectory {setting : Setting} (hmem : setting ∈ [Setting.outputDir, .bindingsDir,
      .targetDir]) {dir : Path}
      (hdir : directoryIn host c.root (Setting.inForce entries setting) = .ok dir) :=
    directoryIn_moved hlinks hroot hroot' (hportable.directories setting hmem).1
      (hportable.directories setting hmem).2 hdir
  obtain ⟨houtput, houtput'⟩ := hdirectory (by simp) h.outputDir
  obtain ⟨hbindings, hbindings'⟩ := hdirectory (by simp) h.bindingsDir
  obtain ⟨htarget, htarget'⟩ := hdirectory (by simp) h.targetDir
  obtain ⟨name, hname, hlibrary, hmerged⟩ := exists_name_of_mergedLibraryIn h.mergedLibrary
  have hon := hname (hportable.names _ (by simp)) (hportable.names _ (by simp))
  constructor
  · exact {
      outputDir := houtput
      bindingsDir := hbindings
      targetDir := htarget
      mergedLibrary := hlibrary ▸ houtput.div hon
      frameworkName := h.frameworkName ▸ hportable.names _ (by simp)
      crate := h.crate ▸ hportable.names _ (by simp)
      moduleMapName := h.moduleMapName ▸ hportable.names _ (by simp)
      triples := hportable.triples _ h.targets }
  · exact { h with
      root := Host.resolve_self hlinks hroot'.lead hroot'.plain
      outputDir := houtput'
      bindingsDir := hbindings'
      targetDir := htarget'
      mergedLibrary := by
        have hmoved : c.mergedLibrary.moved c.root root' = c.outputDir.moved c.root root' / name := by
          rw [hlibrary, moved_div houtput hon]
        exact (hmerged _).trans (congrArg Except.ok hmoved.symm) }

end

end Config

end FrameworkForge

import FrameworkForge.Config.Resolve
import FrameworkForge.Proofs.Checks
import FrameworkForge.Proofs.Path.Resolution

/-! What it takes to resolve settings, check by check, and what every configuration that comes out
of it is sure to have. -/

namespace FrameworkForge

namespace Value

/-- The text holds halves of pairs of code units. -/
def IsHalf (v : Value) : Prop :=
  ∃ letters, v = .brokenText letters

/-- What cannot be written is half a text, or holds a number that is too long. -/
theorem isWritable_eq_false_iff {v : Value} : v.isWritable = false ↔
    v.IsHalf ∧ v.unwritable = .halfText ∨
      v.isQuotable = false ∧ v.unwritable = .integerNotWritable := by
  cases v with
  | brokenText letters => simp [isWritable, unwritable, IsHalf]
  | _ => simp [isWritable, unwritable, IsHalf]

theorem checkWritable_eq_ok_iff {v : Value} : v.checkWritable = .ok () ↔ v.isWritable = true := by
  rw [checkWritable]
  split <;> simp_all

theorem written_eq_ok_iff {v : Value} {text : String} :
    v.written = .ok text ↔ v.isWritable = true ∧ v.plain = text := by
  rw [written, checkWritable]
  split <;> simp_all [bind, Except.bind, pure, Except.pure]

end Value

namespace Config

open Checks

theorem fileIn_eq_ok_iff {dir file : Path} {setting : NameSetting} {name : Value} :
    fileIn dir setting name = .ok file ↔
      name.isText = true ∧ name.isWritable = true ∧ dir / name.plain = file := by
  rw [fileIn]
  split
  · next htext =>
    rw [bind_eq_ok_iff]
    simp [Value.written_eq_ok_iff, pure, Except.pure, htext, and_assoc]
  · next htext => simp [htext]

def directoryIn (host : Host) (root : Path) (value : Value) : Except Error Path := do
  host.resolve (root / (← value.written))

theorem isAbsolute_of_directoryIn {host : Host} {root : Path} {value : Value} {dir : Path}
    (h : directoryIn host root value = .ok dir) : dir.isAbsolute = true := by
  obtain ⟨text, -, hdir⟩ := bind_eq_ok_iff.mp h
  exact Host.isAbsolute_of_resolve hdir

/-- The checks on settings have passed and have made the configuration. -/
structure Resolved (host : Host) (entries : Value.Entries) (projectRoot : Path) (c : Config) :
    Prop where
  keys : checkKeys entries = .ok ()
  root : host.resolve projectRoot = .ok c.root
  outputDir : directoryIn host c.root (Setting.inForce entries .outputDir) = .ok c.outputDir
  bindingsDir : directoryIn host c.root (Setting.inForce entries .bindingsDir) = .ok c.bindingsDir
  targetDir : directoryIn host c.root (Setting.inForce entries .targetDir) = .ok c.targetDir
  mergedLibrary : mergedLibraryIn c.outputDir (Setting.inForce entries .mergedLibrary)
    (Setting.inForce entries .crate) = .ok c.mergedLibrary
  tools : ∃ given, givenTools entries = .ok given ∧ toolbox host given = .ok c.tools
  targets : targetList entries = .ok c.targets
  crate : c.crate = Setting.inForce entries .crate
  frameworkName : c.frameworkName = Setting.inForce entries .frameworkName
  moduleMapName : c.moduleMapName = Setting.inForce entries .moduleMapName
  bindgenPackage : c.bindgenPackage = Setting.inForce entries .bindgenPackage
  bindgenBinary : c.bindgenBinary = Setting.inForce entries .bindgenBinary
  language : c.language = Setting.inForce entries .language

theorem ofEntries_eq_ok_iff {host : Host} {entries : Value.Entries} {projectRoot : Path}
    {c : Config} :
    ofEntries host entries projectRoot = .ok c ↔ Resolved host entries projectRoot c := by
  constructor
  · intro h
    obtain ⟨_, keys, h⟩ := bind_eq_ok_iff.mp h
    obtain ⟨root, hroot, h⟩ := bind_eq_ok_iff.mp h
    obtain ⟨outputDir, hout, h⟩ := bind_eq_ok_iff.mp h
    obtain ⟨bindingsDir, hbindings, h⟩ := bind_eq_ok_iff.mp h
    obtain ⟨targetDir, htarget, h⟩ := bind_eq_ok_iff.mp h
    obtain ⟨mergedLibrary, hmerged, h⟩ := bind_eq_ok_iff.mp h
    obtain ⟨given, hgiven, h⟩ := bind_eq_ok_iff.mp h
    obtain ⟨tools, htools, h⟩ := bind_eq_ok_iff.mp h
    obtain ⟨targets, htargets, h⟩ := bind_eq_ok_iff.mp h
    cases h
    exact ⟨keys, hroot, hout, hbindings, htarget, hmerged, ⟨given, hgiven, htools⟩, htargets,
      rfl, rfl, rfl, rfl, rfl, rfl⟩
  · rintro ⟨keys, hroot, hout, hbindings, htarget, hmerged, ⟨given, hgiven, htools⟩, htargets,
      hcrate, hname, hmap, hpackage, hbinary, hlanguage⟩
    refine bind_eq_ok_iff.mpr ⟨(), keys, ?_⟩
    refine bind_eq_ok_iff.mpr ⟨c.root, hroot, ?_⟩
    refine bind_eq_ok_iff.mpr ⟨c.outputDir, hout, ?_⟩
    refine bind_eq_ok_iff.mpr ⟨c.bindingsDir, hbindings, ?_⟩
    refine bind_eq_ok_iff.mpr ⟨c.targetDir, htarget, ?_⟩
    refine bind_eq_ok_iff.mpr ⟨c.mergedLibrary, hmerged, ?_⟩
    refine bind_eq_ok_iff.mpr ⟨given, hgiven, ?_⟩
    refine bind_eq_ok_iff.mpr ⟨c.tools, htools, ?_⟩
    refine bind_eq_ok_iff.mpr ⟨c.targets, htargets, ?_⟩
    cases c
    simp_all [pure, Except.pure]

theorem resolve_eq_ok_iff {host : Host} {data : Value} {projectRoot : Path} {c : Config} :
    resolve host data projectRoot = .ok c ↔
      ∃ entries, data.settings = .ok entries ∧ Resolved host entries projectRoot c := by
  simp only [resolve, bind_eq_ok_iff, ofEntries_eq_ok_iff]

theorem resolved_iff_of_settings {host : Host} {data : Value} {entries : Value.Entries}
    {projectRoot : Path} {c : Config} (h : data.settings = .ok entries) :
    resolve host data projectRoot = .ok c ↔ Resolved host entries projectRoot c := by
  rw [resolve, h]
  exact ofEntries_eq_ok_iff

namespace Resolved

variable {host : Host} {entries : Value.Entries} {projectRoot : Path} {c : Config}

theorem unique {c' : Config} (h : Resolved host entries projectRoot c)
    (h' : Resolved host entries projectRoot c') : c = c' :=
  Except.ok.inj ((ofEntries_eq_ok_iff.mpr h).symm.trans (ofEntries_eq_ok_iff.mpr h'))

theorem isAbsolute_outputDir (h : Resolved host entries projectRoot c) :
    c.outputDir.isAbsolute = true :=
  isAbsolute_of_directoryIn h.outputDir

theorem isAbsolute_bindingsDir (h : Resolved host entries projectRoot c) :
    c.bindingsDir.isAbsolute = true :=
  isAbsolute_of_directoryIn h.bindingsDir

theorem isAbsolute_targetDir (h : Resolved host entries projectRoot c) :
    c.targetDir.isAbsolute = true :=
  isAbsolute_of_directoryIn h.targetDir

/-- The merged library has the given name inside the output directory, or one made from the name
of the crate. -/
theorem mergedLibrary_eq (h : Resolved host entries projectRoot c) :
    c.mergedLibrary = c.outputDir /
      if (Setting.inForce entries .mergedLibrary).isGiven
      then (Setting.inForce entries .mergedLibrary).plain
      else Artifact.mergedLibrary c.crate.plain := by
  have hmerged := h.mergedLibrary
  rw [mergedLibraryIn] at hmerged
  split at hmerged
  · next hgiven =>
    obtain ⟨-, -, hfile⟩ := fileIn_eq_ok_iff.mp hmerged
    rw [if_pos hgiven, hfile]
  · obtain ⟨text, htext, heq⟩ := bind_eq_ok_iff.mp hmerged
    obtain ⟨_, _, hplain⟩ := bind_eq_ok_iff.mp htext
    simp_all [pure, Except.pure, h.crate]

theorem isAbsolute_mergedLibrary (h : Resolved host entries projectRoot c) :
    c.mergedLibrary.isAbsolute = true := by
  rw [h.mergedLibrary_eq]
  exact Path.isAbsolute_div h.isAbsolute_outputDir _

end Resolved

end Config

end FrameworkForge

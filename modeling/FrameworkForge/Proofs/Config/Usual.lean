import FrameworkForge.Proofs.Build.Stages
import FrameworkForge.Proofs.Config.Toolbox
import Mathlib.Tactic.Choose

/-! The configuration of a project that has no settings. It resolves on every host without links
that knows its home directory, and it can be built. -/

namespace FrameworkForge

namespace Host

/-- A machine that says where home is and nothing else. -/
def plain : Host :=
  { Host.empty with environment := Table.ofList [("HOME", "/home/dev")] }

theorem home_plain : plain.home "" = .ok (Path.parse "/home/dev") := by
  have hvariable : plain.environment.get? "HOME" = some "/home/dev" := by decide
  have htilde : "/home/dev".startsWith "~" = false := by
    rw [String.startsWith_string_eq_false_iff]
    decide
  simp only [home, homeText?, hvariable]
  simp [htilde]

theorem resolve_div_self {host : Host} (hlinks : host.links = []) {root : Path}
    (hlead : root.lead = .root) (hplain : root.IsPlain) {name : String}
    (hname : (Path.parse name).lead = .relative) (hbelow : (Path.parse name).IsPlain) :
    host.resolve (root / name) = .ok (root / name) := by
  have hjoin : root / name = ⟨root.lead, root.parts ++ (Path.parse name).parts⟩ :=
    Path.join_of_relative root hname
  exact resolve_self hlinks (hjoin ▸ hlead) (hplain.join hbelow)

end Host

namespace Config

open Checks

theorem ofSetting_of_isAbsolute (host : Host) {text : String}
    (h : (Path.parse text).isAbsolute = true) :
    Executable.ofSetting host text = .ok ⟨Path.parse text, h⟩ := by
  have hexpand : host.expandHome (Path.parse text) = .ok (Path.parse text) := by
    rw [Host.expandHome]
    split
    · next hlead _ => simp [Path.isAbsolute, hlead] at h
    · rfl
  refine bind_eq_ok_iff.mpr ⟨_, hexpand, ?_⟩
  rw [Executable.check, dif_pos h]

theorem ofSetting_below_home {host : Host} {home : Path} (hhome : host.home "" = .ok home)
    (habs : home.isAbsolute = true) {text : String} {parts : List Component}
    (h : Path.parse text = ⟨.relative, ⟨"~", by decide⟩ :: parts⟩) :
    Executable.ofSetting host text = .ok ⟨⟨home.lead, home.parts ++ parts⟩, habs⟩ := by
  have hbelow : (⟨home.lead, home.parts ++ parts⟩ : Path).isAbsolute = true := habs
  refine bind_eq_ok_iff.mpr ⟨⟨home.lead, home.parts ++ parts⟩, ?_, ?_⟩
  · simp [h, Host.expandHome, hhome, bind, Except.bind, pure, Except.pure]
  · rw [Executable.check, dif_pos hbelow]

def CalledLike (tool : Tool) (e : Executable) : Prop :=
  e.path.parts.getLast?.map Component.name = some tool.name

theorem exists_ofSetting_default {host : Host} {home : Path} (hhome : host.home "" = .ok home)
    (habs : home.isAbsolute = true) (tool : Tool) :
    ∃ e, Executable.ofSetting host tool.defaultPath = .ok e ∧ CalledLike tool e := by
  let folder (name : Component) : List Component :=
    [⟨".cargo", by decide⟩, ⟨"bin", by decide⟩, name]
  cases tool with
  | cargo =>
    have hparse : Path.parse Tool.cargo.defaultPath =
        ⟨.relative, ⟨"~", by decide⟩ :: folder ⟨"cargo", by decide⟩⟩ := by decide
    exact ⟨_, ofSetting_below_home hhome habs hparse, by simp [CalledLike, folder, Tool.name]⟩
  | rustup =>
    have hparse : Path.parse Tool.rustup.defaultPath =
        ⟨.relative, ⟨"~", by decide⟩ :: folder ⟨"rustup", by decide⟩⟩ := by decide
    exact ⟨_, ofSetting_below_home hhome habs hparse, by simp [CalledLike, folder, Tool.name]⟩
  | _ => exact ⟨_, ofSetting_of_isAbsolute host (by decide), by unfold CalledLike; decide⟩

theorem exists_toolbox {host : Host} {home : Path} (hhome : host.home "" = .ok home)
    (habs : home.isAbsolute = true) : ∃ tools, toolbox host .empty = .ok tools ∧
      ∀ tool, CalledLike tool (tools.executable tool) := by
  choose e he hcalled using exists_ofSetting_default hhome habs
  exact ⟨⟨e, []⟩, toolbox_eq_ok_iff.mpr ⟨he, rfl⟩, hcalled⟩

def usual (root : Path) (tools : Toolbox) : Config where
  root
  crate := Setting.crate.default
  frameworkName := Setting.frameworkName.default
  outputDir := root / "buildIos"
  bindingsDir := root / "bindings"
  targetDir := root / "target"
  mergedLibrary := root / "buildIos" / "libmls_rs_uniffi_ios_sim_combined.a"
  moduleMapName := Setting.moduleMapName.default
  bindgenPackage := Setting.bindgenPackage.default
  bindgenBinary := Setting.bindgenBinary.default
  language := Setting.language.default
  tools
  targets := .defaults

theorem resolved_usual {host : Host} (hlinks : host.links = []) {tools : Toolbox}
    (htools : toolbox host .empty = .ok tools) {root : Path} (hlead : root.lead = .root)
    (hplain : root.IsPlain) : Resolved host [] root (usual root tools) := by
  have hroot (name : String) (hname : (Path.parse name).lead = .relative)
      (hbelow : (Path.parse name).IsPlain) :
      host.resolve (root / name) = .ok (root / name) :=
    Host.resolve_div_self hlinks hlead hplain hname hbelow
  exact {
    keys := rfl
    root := Host.resolve_self hlinks hlead hplain
    outputDir := hroot "buildIos" (by decide) (by decide)
    bindingsDir := hroot "bindings" (by decide) (by decide)
    targetDir := hroot "target" (by decide) (by decide)
    mergedLibrary := rfl
    tools := ⟨.empty, rfl, htools⟩
    targets := rfl
    crate := rfl
    frameworkName := rfl
    moduleMapName := rfl
    bindgenPackage := rfl
    bindgenBinary := rfl
    language := rfl }

theorem exists_resolved_plain (root : Path) (hlead : root.lead = .root)
    (hplain : root.IsPlain) :
    ∃ tools, Resolved Host.plain [] root (usual root tools) ∧
      ∀ tool, CalledLike tool (tools.executable tool) := by
  obtain ⟨tools, htools, hcalled⟩ := exists_toolbox Host.home_plain (by decide)
  exact ⟨tools, resolved_usual rfl htools hlead hplain, hcalled⟩

theorem exists_resolve_plain (root : Path) (hlead : root.lead = .root)
    (hplain : root.IsPlain) :
    ∃ tools, resolve Host.plain .null root = .ok (usual root tools) ∧
      ∀ tool, CalledLike tool (tools.executable tool) := by
  obtain ⟨tools, h, hcalled⟩ := exists_resolved_plain root hlead hplain
  exact ⟨tools, resolve_eq_ok_iff.mpr ⟨[], rfl, h⟩, hcalled⟩

theorem buildable_usual (root : Path) (tools : Toolbox) : Build.Buildable (usual root tools) where
  writable := by
    change ∀ v ∈ [Setting.frameworkName.default, Setting.language.default, Setting.crate.default,
      Setting.bindgenPackage.default, Setting.bindgenBinary.default,
      Setting.moduleMapName.default], v.isWritable = true
    decide
  moduleMapName := rfl
  libraries := by
    have hne : (usual root tools).targetDir / "aarch64-apple-ios-sim" ≠
        (usual root tools).targetDir / "x86_64-apple-ios" := by
      intro h
      exact absurd (Path.join_left_cancel (by decide) (by decide) h) (by decide)
    have hlibraries : Build.simulatorLibraries (usual root tools) =
        [(usual root tools).targetDir / "aarch64-apple-ios-sim" / "release" /
            "libmls_rs_uniffi_ios.a",
          (usual root tools).targetDir / "x86_64-apple-ios" / "release" /
            "libmls_rs_uniffi_ios.a"] := rfl
    simp only [hlibraries, List.nodup_cons, List.mem_singleton, List.not_mem_nil,
      List.nodup_nil, not_false_eq_true, and_true]
    intro h
    exact hne (Path.join_right_cancel (by decide) (Path.join_right_cancel (by decide) h))

end Config

end FrameworkForge

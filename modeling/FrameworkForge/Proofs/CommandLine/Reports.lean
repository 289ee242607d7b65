import FrameworkForge.Proofs.Build.Faults
import FrameworkForge.Proofs.CommandLine.Starts
import FrameworkForge.Proofs.Config.Shapes

/-! What the user is told when a build cannot be planned: one complaint and an exit with one, except
in the cases that the command line does not foresee. A run that is planned ends with an exit code,
unless it is interrupted. -/

namespace FrameworkForge.CommandLine

/-- The place of the project that the choices name. -/
def Choices.root? (host : Host) (choices : Choices) : Option Path :=
  match choices.projectRoot with
  | none => some host.currentDirectory
  | some operand => operand.map Path.parse

/-- After the keys of the settings the root is looked up, or the program has ended: all keys are known,
or one that is unknown cannot be listed. -/
def ReachesRoot (entries : Value.Entries) : Prop :=
  Config.checkKeys entries = .ok () ∨
    ∃ key ∈ entries.map Prod.fst, Setting.isKnown key = false ∧ key.isText = false

/-- The choices end the program before there is a plan. A root that is not named counts only after
the file with the settings, if one is given, has been looked at. -/
inductive Unforeseen (host : Host) (choices : Choices) : Prop
  | configUnnamed (unnamed : choices.config = some none)
  | rootUnnamed {file : Option Path} (config : choices.file? = .ok file)
      (unnamed : choices.root? host = none)
      (reached : file = none ∨ Config.Unreadable host file .here ∨
        ∃ entries, Config.settings host file .here = .ok entries ∧ ReachesRoot entries)
  | document {file : Option Path} {root : Path} (config : choices.file? = .ok file)
      (place : choices.root? host = some root) (unreadable : Config.Unreadable host file root)
  | settings {file : Option Path} {root : Path} {entries : Value.Entries}
      (config : choices.file? = .ok file) (place : choices.root? host = some root)
      (read : Config.settings host file root = .ok entries)
      (unforeseen : Config.Unforeseen host entries root)
  | moduleMap {config : Config} (loaded : choices.load host = .ok config)
      (writable : ∀ v ∈ config.names, v.isWritable = true)
      (notText : config.moduleMapName.isText = false)

namespace Choices

variable {host : Host} {choices : Choices}

theorem load_of_root {file : Option Path} {root : Path} (hfile : choices.file? = .ok file)
    (hroot : choices.root? host = some root) :
    choices.load host = Config.load host file root := by
  rw [load, hfile]
  rw [root?] at hroot
  rcases hgiven : choices.projectRoot with _ | _ | text
  · simp_all [bind, Except.bind]
  · simp [hgiven] at hroot
  · simp_all [bind, Except.bind]

theorem escapes_file?_iff : Escapes choices.file? ↔ choices.config = some none := by
  rw [file?.eq_def]
  split
  · next hnone => simp [hnone, Escapes.not_ok]
  · next text hsome => simp [hsome, Escapes.not_ok]
  · next hunnamed => exact iff_of_true (Escapes.of_error rfl) hunnamed

theorem escapes_load_of_unnamed {file : Option Path} (hfile : choices.file? = .ok file)
    (hroot : choices.root? host = none) : Escapes (choices.load host) ↔
      file = none ∨ Config.Unreadable host file .here ∨
        ∃ entries, Config.settings host file .here = .ok entries ∧ ReachesRoot entries := by
  have hgiven : choices.projectRoot = some none := by
    rw [root?] at hroot
    rcases h : choices.projectRoot with _ | _ | text <;> simp_all
  have hload : Escapes (choices.load host) ↔ Escapes (match file with
      | none => throw (.emptyOption .root)
      | some _ => do
        let entries ← Config.settings host file .here
        Config.checkKeys entries
        throw (.emptyOption .rootBesideConfig) : Except Error Config) := by
    rw [load, hgiven]
    cases file <;> exact Escapes.bind_ok_iff hfile
  rw [hload]
  cases file with
  | none => exact iff_of_true (Escapes.of_error rfl) (.inl rfl)
  | some file =>
    have hkeys (entries : Value.Entries) : Escapes (do
        Config.checkKeys entries
        throw (.emptyOption .rootBesideConfig) : Except Error Config) ↔ ReachesRoot entries := by
      have hthrow (_ : Unit) :
          Escapes (throw (.emptyOption .rootBesideConfig) : Except Error Config) ↔ True :=
        iff_true_intro (Escapes.of_error rfl)
      rw [Escapes.bind_congr hthrow, and_true, Config.escapes_checkKeys_iff, ReachesRoot, or_comm]
      exact or_congr_left ⟨fun ⟨_, h⟩ => h, fun h => ⟨(), h⟩⟩
    simp only [reduceCtorEq, false_or, ← Config.escapes_settings_iff, ← hkeys]
    exact Escapes.bind_iff

end Choices

namespace Command

variable {host : Host} {command : Command} {choices : Choices}

theorem not_escapes_select (command : Command) (choices : Choices) (p : Pipeline) :
    ¬ Escapes (command.select choices p) := by
  cases command with
  | build => exact p.not_escapes_select _ _
  | package => exact p.not_escapes_selectNamed _
  | stages => exact Escapes.not_ok _

theorem escapes_plan_iff_load : Escapes (command.plan host choices) ↔
    Escapes (choices.load host) ∨
      ∃ config, choices.load host = .ok config ∧ Escapes (Build.pipeline config) := by
  have hbelow (config : Config) (p : Pipeline) : ¬ Escapes (do
      let selected ← command.select choices p
      return (⟨config, p, selected⟩ : Plan)) :=
    mt Escapes.bind_pure_iff.mp (command.not_escapes_select choices p)
  refine Escapes.bind_iff.trans (or_congr_right (exists_congr fun config => ?_))
  exact and_congr_right fun _ => Escapes.bind_left_iff (hbelow config)

theorem escapes_plan_iff : Escapes (command.plan host choices) ↔ Unforeseen host choices := by
  rw [escapes_plan_iff_load]
  constructor
  · rintro (hload | ⟨config, hload, hpipeline⟩)
    · rcases Escapes.bind_iff.mp hload with hunnamed | ⟨file, hfile, -⟩
      · exact .configUnnamed (Choices.escapes_file?_iff.mp hunnamed)
      cases hroot : choices.root? host with
      | none =>
        exact .rootUnnamed hfile hroot ((Choices.escapes_load_of_unnamed hfile hroot).mp hload)
      | some root =>
        rw [Choices.load_of_root hfile hroot, Config.escapes_load_iff] at hload
        rcases hload with hunreadable | ⟨entries, hread, hunforeseen⟩
        · exact .document hfile hroot hunreadable
        · exact .settings hfile hroot hread hunforeseen
    · obtain ⟨hwritable, htext⟩ := Build.escapes_pipeline_iff.mp hpipeline
      exact .moduleMap hload hwritable htext
  · intro h
    cases h with
    | configUnnamed unnamed =>
      exact .inl (Escapes.bind_iff.mpr (.inl (Choices.escapes_file?_iff.mpr unnamed)))
    | rootUnnamed config unnamed reached =>
      exact .inl ((Choices.escapes_load_of_unnamed config unnamed).mpr reached)
    | document config place unreadable =>
      rw [Choices.load_of_root config place, Config.escapes_load_iff]
      exact .inl (.inl unreadable)
    | settings config place read unforeseen =>
      rw [Choices.load_of_root config place, Config.escapes_load_iff]
      exact .inl (.inr ⟨_, read, unforeseen⟩)
    | moduleMap loaded writable notText =>
      exact .inr ⟨_, loaded, Build.escapes_pipeline_iff.mpr ⟨writable, notText⟩⟩

end Command

variable {σ : Type}

theorem refused_of_reported {e : Error} (h : ¬ Escapes (.error e : Except Error Plan)) (s : σ) :
    refused e s = ⟨.exited 1, .complained [s!"❌ {e.message}"], s⟩ := by
  rw [Escapes.error_iff, Bool.not_eq_false] at h
  rw [refused, if_pos h]

theorem refused_of_escapes {e : Error} (h : Escapes (.error e : Except Error Plan)) (s : σ) :
    refused e s = ⟨.escaped e, ∅, s⟩ := by
  rw [Escapes.error_iff] at h
  rw [refused, if_neg (by simp [h])]

theorem Ending.exited_of_not {ending : Ending} (hescaped : ∀ e, ending ≠ .escaped e)
    (hinterrupted : ∀ cause, ending ≠ .interrupted cause) : ∃ code, ending = .exited code := by
  cases ending with
  | exited code => exact ⟨code, rfl⟩
  | escaped e => exact absurd rfl (hescaped e)
  | interrupted cause => exact absurd rfl (hinterrupted cause)

/-- A run that ends with an exit code, unless an attempt of it is interrupted. -/
def Ends (host : Host) (processes : Processes σ) (s : σ) (ran : Ran σ Ending) : Prop :=
  ∃ made, Chain host processes s made ran.state ∧
    ran.trace.spawns = made.map (Attempt.spawn host) ∧
    (∀ cause, ran.value = .interrupted cause ↔ ∃ a ∈ made, a.Interrupted cause) ∧
    ((∀ a ∈ made, ∀ cause, ¬ a.Interrupted cause) → ∃ code, ran.value = .exited code)

theorem Idle.ends {s : σ} {ran : Ran σ Ending} (h : Idle s ran) (host : Host)
    (processes : Processes σ) : Ends host processes s ran := by
  obtain ⟨code, hcode⟩ := h.exited
  refine ⟨[], ?_, h.spawns, by simp [hcode], fun _ => ⟨code, hcode⟩⟩
  rw [h.state]
  exact .nil s

theorem Worked.ends {host : Host} {processes : Processes σ} {plan : Plan} {s : σ}
    {made : List Attempt} {ran : Ran σ Ending} (h : Worked host processes plan s made ran) :
    Ends host processes s ran := by
  refine ⟨made, h.chain, h.spawns, h.interrupted, fun hnone => ?_⟩
  refine Ending.exited_of_not h.notEscaped fun cause hcause => ?_
  obtain ⟨a, ha, hinterrupted⟩ := (h.interrupted cause).mp hcause
  exact hnone a ha cause hinterrupted

/-- A project in whose settings a number stands where the name of a setting belongs. -/
def numbered : Host :=
  { Config.holding "5: x\n" with currentDirectory := Path.parse "/project" }

/-- The settings have one key, which is unknown and no text. -/
def isNumbered : Value → Bool
  | .map [(key, _)] _ => !Setting.isKnown key && !key.isText
  | _ => false

theorem unforeseen_numbered : Unforeseen numbered {} := by
  have hnumber : (Yaml.reader .usual (.text "5: x\n")).toOption.any isNumbered = true := by
    decide +kernel
  obtain ⟨v, hread, hv⟩ := Config.exists_read hnumber
  rw [isNumbered.eq_def] at hv
  split at hv
  · next key setting identity =>
    obtain ⟨hunknown, htext⟩ : Setting.isKnown key = false ∧ key.isText = false := by
      simpa using hv
    have hdocuments : Config.Documents numbered none (Path.parse "/project")
        (.map [(key, setting)] identity) :=
      Config.documents_holding hread
    have hsettings : Config.settings numbered none (Path.parse "/project") =
        .ok [(key, setting)] :=
      Config.settings_of_documents hdocuments
    exact .settings rfl rfl hsettings (.key key (by simp) hunknown htext)
  · cases hv

end FrameworkForge.CommandLine

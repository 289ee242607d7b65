import FrameworkForge.Config.Load
import FrameworkForge.Proofs.Config.Resolved
import FrameworkForge.Proofs.Faults

/-! The settings that end the program. Most settings that cannot be used are reported to the user;
these are the causes of which that is not so, in the order in which they are met. -/

namespace FrameworkForge

namespace Value

theorem isReported_unwritable (v : Value) : v.unwritable.isReported = true := by
  cases v <;> rfl

theorem not_escapes_checkWritable (v : Value) : ¬ Escapes v.checkWritable := by
  rw [checkWritable]
  split
  · exact Escapes.not_ok ()
  · exact Escapes.not_error v.isReported_unwritable

theorem not_escapes_written (v : Value) : ¬ Escapes v.written :=
  mt Escapes.bind_pure_iff.mp v.not_escapes_checkWritable

theorem not_escapes_shown (v : Value) : ¬ Escapes v.shown := by
  rw [shown]
  split
  · exact Escapes.not_ok _
  · exact Escapes.not_error rfl

end Value

namespace Environment

theorem not_escapes_ofEntries (entries : Value.Entries) : ¬ Escapes (ofEntries entries) := by
  refine mt Escapes.bind_pure_iff.mp (Escapes.not_mapM (fun entry => ?_) entries)
  refine Escapes.not_bind entry.1.not_escapes_written fun _ => ?_
  exact mt Escapes.bind_pure_iff.mp entry.2.not_escapes_written

end Environment

namespace Host

/-- A link without an end is met on the way, and what the path comes to by its text has no end for
the system either. -/
def GivesUp (host : Host) (p : Path) : Prop :=
  ∃ place rest, host.walk p = .endless place rest ∧
    (host.absolute ⟨place.lead, place.parts ++ rest⟩).parts.any Component.hasNull = false ∧
    host.isEndless (host.absolute ⟨place.lead, place.parts ++ rest⟩) = true

/-- It is not known where the user has a home. A name with a null character in it is that of no
user, and refused. -/
def LacksHome (host : Host) (user : String) : Prop :=
  Char.ofNat 0 ∉ user.toList ∧ ∀ home, host.home user ≠ .ok home

/-- The path starts at a home directory, and it is not known which one that is. -/
def Homeless (host : Host) (p : Path) : Prop :=
  ∃ c cs user, p = ⟨.relative, c :: cs⟩ ∧ c.name.toList = '~' :: user ∧
    host.LacksHome (String.ofList user)

variable {host : Host} {p : Path} {user : String}

theorem escapes_pastEndless_iff {place : Path} {rest : List Component} :
    Escapes (host.pastEndless place rest) ↔
      (host.absolute ⟨place.lead, place.parts ++ rest⟩).parts.any Component.hasNull = false ∧
        host.isEndless (host.absolute ⟨place.lead, place.parts ++ rest⟩) = true := by
  rw [pastEndless]
  generalize host.absolute ⟨place.lead, place.parts ++ rest⟩ = folded
  cases hnull : folded.parts.any Component.hasNull with
  | true => exact iff_of_false (Escapes.not_error rfl) (by simp)
  | false =>
    cases hendless : host.isEndless folded with
    | true => exact iff_of_true (Escapes.of_error rfl) ⟨rfl, rfl⟩
    | false => exact iff_of_false (Escapes.not_ok _) (by simp)

theorem escapes_resolve_iff : Escapes (host.resolve p) ↔ host.GivesUp p := by
  rw [resolve, GivesUp, ← walk]
  cases host.walk p with
  | reached place => simp [Escapes.not_ok]
  | refused => simp [Escapes.error_iff, Error.isReported]
  | endless place rest => simp [escapes_pastEndless_iff]

theorem escapes_home_iff : Escapes (host.home user) ↔ host.LacksHome user := by
  rw [LacksHome, home]
  by_cases hnull : Char.ofNat 0 ∈ user.toList
  · rw [if_pos hnull]
    exact iff_of_false (Escapes.not_error rfl) fun h => h.1 hnull
  · rw [if_neg hnull]
    cases host.homeText? user with
    | none => exact iff_of_true (Escapes.of_error rfl) ⟨hnull, by simp⟩
    | some text =>
      dsimp only
      split
      · exact iff_of_true (Escapes.of_error rfl) ⟨hnull, by simp⟩
      · exact iff_of_false (Escapes.not_ok _) fun h => h.2 _ rfl

theorem homeless_cons_iff {c : Component} {cs : List Component} :
    host.Homeless ⟨.relative, c :: cs⟩ ↔ ∃ user, c.name.toList = '~' :: user ∧
      host.LacksHome (String.ofList user) := by
  constructor
  · rintro ⟨_, _, user, hp, h⟩
    cases hp
    exact ⟨user, h⟩
  · exact fun ⟨user, h⟩ => ⟨c, cs, user, rfl, h⟩

theorem escapes_expandHome_iff : Escapes (host.expandHome p) ↔ host.Homeless p := by
  obtain ⟨lead, _ | ⟨c, cs⟩⟩ := p
  · cases lead <;> simp [expandHome, Homeless, Escapes.not_ok]
  · cases lead with
    | relative =>
      rw [homeless_cons_iff, expandHome]
      dsimp only
      split
      · next user huser =>
        rw [Escapes.bind_pure_iff, escapes_home_iff]
        simp [huser]
      · next hother => exact iff_of_false (Escapes.not_ok _) fun ⟨user, h, _⟩ => hother user h
    | _ => simp [expandHome, Homeless, Escapes.not_ok]

end Host

theorem Executable.escapes_ofSetting_iff {host : Host} {text : String} :
    Escapes (ofSetting host text) ↔ host.Homeless (Path.parse text) := by
  have hcheck (p : Path) : ¬ Escapes (check p (.relativeTool text)) := by
    rw [check]
    split
    · exact Escapes.not_ok _
    · exact Escapes.not_error rfl
  have hbind := Escapes.bind_congr (x := host.expandHome (Path.parse text))
    fun p => iff_false_intro (hcheck p)
  rw [ofSetting, hbind, and_false, or_false, Host.escapes_expandHome_iff]

namespace Target

theorem not_escapes_unquoted (overrides : Value.Entries) : ¬ Escapes (unquoted overrides) :=
  mt Escapes.bind_pure_iff.mp
    (Escapes.not_mapM (fun entry => entry.1.not_escapes_written) _)

theorem not_escapes_overridesOf (target : Value) (entries : Value.Entries) :
    ¬ Escapes (overridesOf target entries) := by
  rw [overridesOf]
  split
  · exact Escapes.not_ok _
  · refine Escapes.not_bind (not_escapes_unquoted _) fun names => ?_
    split
    · exact Escapes.not_ok _
    · exact Escapes.not_bind target.not_escapes_written fun _ => Escapes.not_error rfl
  · exact Escapes.not_bind target.not_escapes_written fun _ => Escapes.not_error rfl

theorem not_escapes_build (name triple platform : String) (overrides : Value.Entries) :
    ¬ Escapes (build name triple platform overrides) := by
  rw [build]
  split
  · exact mt Escapes.bind_pure_iff.mp (Environment.not_escapes_ofEntries overrides)
  · exact Escapes.not_error rfl

theorem not_escapes_ofValue (entry : Value) : ¬ Escapes (ofValue entry) := by
  unfold ofValue
  split
  · split
    · refine Escapes.not_bind (not_escapes_overridesOf _ _) fun _ => ?_
      refine Escapes.not_bind (Value.not_escapes_written _) fun _ => ?_
      refine Escapes.not_bind (Value.not_escapes_written _) fun _ => ?_
      exact Escapes.not_bind (Value.not_escapes_written _) fun _ => not_escapes_build _ _ _ _
    · exact Escapes.not_bind (Value.not_escapes_shown _) fun _ => Escapes.not_error rfl
  · exact Escapes.not_bind (Value.not_escapes_shown _) fun _ => Escapes.not_error rfl

end Target

theorem TargetList.not_escapes_check (targets : List Target) : ¬ Escapes (check targets) := by
  rw [check]
  repeat' split
  all_goals first | exact Escapes.not_ok _ | exact Escapes.not_error rfl

namespace Config

open Checks

theorem not_escapes_givenTools (entries : Value.Entries) : ¬ Escapes (givenTools entries) := by
  rw [givenTools]
  split
  · exact Escapes.not_ok _
  · split
    · exact Environment.not_escapes_ofEntries _
    · exact Escapes.not_error rfl

theorem not_escapes_targetList (entries : Value.Entries) : ¬ Escapes (targetList entries) := by
  rw [targetList]
  split
  · exact Escapes.not_ok _
  · exact Escapes.not_bind (Escapes.not_mapM Target.not_escapes_ofValue _)
      TargetList.not_escapes_check
  · exact Escapes.not_error rfl

theorem not_escapes_mapM_written (values : List Value) : ¬ Escapes (values.mapM Value.written) :=
  Escapes.not_mapM Value.not_escapes_written values

theorem escapes_checkKeys_iff {entries : Value.Entries} : Escapes (checkKeys entries) ↔
    ∃ key ∈ entries.map Prod.fst, Setting.isKnown key = false ∧ key.isText = false := by
  have hunknown : (∃ key ∈ entries.map Prod.fst, Setting.isKnown key = false ∧
      key.isText = false) ↔ (unknownKeys entries).all Value.isText = false := by
    simp [unknownKeys]
  rw [hunknown, checkKeys]
  split
  · next hnil => simp [List.isEmpty_iff.mp hnil, Escapes.not_ok]
  · split
    · next htexts =>
      refine iff_of_false (Escapes.not_bind (not_escapes_mapM_written _) fun names => ?_)
        (by simp [htexts])
      exact Escapes.not_error rfl
    · next hother => exact iff_of_true (Escapes.of_error rfl) (by simpa using hother)

theorem escapes_directoryIn_iff {host : Host} {root : Path} {value : Value} :
    Escapes (directoryIn host root value) ↔
      value.isWritable = true ∧ host.GivesUp (root / value.plain) := by
  rw [directoryIn, Escapes.bind_iff, iff_false_intro value.not_escapes_written, false_or]
  simp only [Value.written_eq_ok_iff, Host.escapes_resolve_iff]
  constructor
  · rintro ⟨_, ⟨hwritable, rfl⟩, hend⟩
    exact ⟨hwritable, hend⟩
  · rintro ⟨hwritable, hend⟩
    exact ⟨_, ⟨hwritable, rfl⟩, hend⟩

theorem escapes_fileIn_iff {dir : Path} {setting : NameSetting} {name : Value} :
    Escapes (fileIn dir setting name) ↔ name.isText = false := by
  rw [fileIn]
  split
  · next htext =>
    exact iff_of_false (mt Escapes.bind_pure_iff.mp name.not_escapes_written) (by simp [htext])
  · next htext => exact iff_of_true (Escapes.of_error rfl) (by simpa using htext)

theorem escapes_mergedLibraryIn_iff {outputDir : Path} {given crate : Value} :
    Escapes (mergedLibraryIn outputDir given crate) ↔
      given.isGiven = true ∧ given.isText = false := by
  rw [mergedLibraryIn]
  split
  · next hgiven => simp [escapes_fileIn_iff, hgiven]
  · next hgiven =>
    refine iff_of_false (mt Escapes.bind_pure_iff.mp crate.not_escapes_written) ?_
    simp [hgiven]

/-- The paths of the tools, in the order in which they are looked at. -/
def toolPaths (given : Table String) : List String :=
  Tool.all.map (fun tool => (given.get? tool.name).getD tool.defaultPath) ++
    (given.entries.filter fun entry => !isStandard entry.1).map Prod.snd

theorem escapes_toolbox_iff_mapM {host : Host} {given : Table String} :
    Escapes (toolbox host given) ↔
      Escapes ((toolPaths given).mapM (Executable.ofSetting host)) := by
  simp only [toolPaths, Tool.all, List.map_cons, List.map_nil, List.cons_append, List.nil_append]
  repeat refine (Escapes.bind_congr fun _ => ?_).trans Escapes.mapM_cons_iff.symm
  exact Escapes.bind_pure_iff.trans Escapes.mapM_map_iff.symm

theorem exists_mergedLibraryIn_iff {outputDir : Path} {given crate : Value} :
    (∃ p, mergedLibraryIn outputDir given crate = .ok p) ↔
      if given.isGiven then given.isText = true ∧ given.isWritable = true
      else crate.isWritable = true := by
  rw [mergedLibraryIn]
  split
  · simp [fileIn_eq_ok_iff]
  · simp only [bind_eq_ok_iff, Value.written_eq_ok_iff]
    constructor
    · rintro ⟨_, _, ⟨hwritable, -⟩, -⟩
      exact hwritable
    · exact fun h => ⟨_, _, ⟨h, rfl⟩, rfl⟩

def directories : List Setting :=
  [.outputDir, .bindingsDir, .targetDir]

def HasDirectory (host : Host) (entries : Value.Entries) (root : Path) (setting : Setting) :
    Prop :=
  ∃ dir, directoryIn host root (Setting.inForce entries setting) = .ok dir

/-- All keys are known, and this is where the project is. -/
structure Located (host : Host) (entries : Value.Entries) (projectRoot root : Path) : Prop where
  keys : checkKeys entries = .ok ()
  found : host.resolve projectRoot = .ok root

/-- The directories of the project are known as well. -/
structure Housed (host : Host) (entries : Value.Entries) (projectRoot root : Path) : Prop
    extends Located host entries projectRoot root where
  directories : ∀ setting ∈ directories, HasDirectory host entries root setting

/-- The merged library has a name: the given one, or one that is made from the name of the crate. -/
def NamesMergedLibrary (entries : Value.Entries) : Prop :=
  if (Setting.inForce entries .mergedLibrary).isGiven
  then (Setting.inForce entries .mergedLibrary).isText = true ∧
    (Setting.inForce entries .mergedLibrary).isWritable = true
  else (Setting.inForce entries .crate).isWritable = true

/-- The settings end the program. Each cause counts only when what is looked at before is in
order. -/
inductive Unforeseen (host : Host) (entries : Value.Entries) (projectRoot : Path) : Prop
  | key (key : Value) (mem : key ∈ entries.map Prod.fst) (unknown : Setting.isKnown key = false)
      (notText : key.isText = false)
  | root (keys : checkKeys entries = .ok ()) (endless : host.GivesUp projectRoot)
  | directory {root : Path} (located : Located host entries projectRoot root)
      (before after : List Setting) (setting : Setting)
      (order : directories = before ++ setting :: after)
      (passed : ∀ earlier ∈ before, HasDirectory host entries root earlier)
      (writable : (Setting.inForce entries setting).isWritable = true)
      (endless : host.GivesUp (root / (Setting.inForce entries setting).plain))
  | mergedLibrary {root : Path} (housed : Housed host entries projectRoot root)
      (given : (Setting.inForce entries .mergedLibrary).isGiven = true)
      (notText : (Setting.inForce entries .mergedLibrary).isText = false)
  | tool {root : Path} (housed : Housed host entries projectRoot root)
      (named : NamesMergedLibrary entries) {given : Table String}
      (tools : givenTools entries = .ok given) (before after : List String) (text : String)
      (order : toolPaths given = before ++ text :: after)
      (passed : ∀ earlier ∈ before, ∃ e, Executable.ofSetting host earlier = .ok e)
      (homeless : host.Homeless (Path.parse text))

theorem escapes_ofEntries_iff_of_located {host : Host} {entries : Value.Entries}
    {projectRoot root : Path} (h : Located host entries projectRoot root) :
    Escapes (ofEntries host entries projectRoot) ↔
      Escapes (directories.mapM fun setting =>
        directoryIn host root (Setting.inForce entries setting)) ∨
      (∀ setting ∈ directories, HasDirectory host entries root setting) ∧
        ((Setting.inForce entries .mergedLibrary).isGiven = true ∧
            (Setting.inForce entries .mergedLibrary).isText = false ∨
          NamesMergedLibrary entries ∧
            ∃ given, givenTools entries = .ok given ∧ Escapes (toolbox host given)) := by
  unfold directories HasDirectory
  refine (Escapes.bind_ok_iff h.keys).trans ((Escapes.bind_ok_iff h.found).trans ?_)
  iterate 3
    refine Iff.trans ?_ Escapes.cons_iff
    refine Escapes.bind_congr fun _ => ?_
  refine Iff.trans ?_ Escapes.nil_iff
  rw [← escapes_mergedLibraryIn_iff, NamesMergedLibrary, ← exists_mergedLibraryIn_iff]
  refine Escapes.bind_congr fun _ => ?_
  refine (Escapes.bind_right_iff (not_escapes_givenTools entries)).trans ?_
  refine exists_congr fun given => and_congr_right fun _ => ?_
  refine Escapes.bind_left_iff fun _ => ?_
  exact mt Escapes.bind_pure_iff.mp (not_escapes_targetList entries)

theorem escapes_ofEntries_iff {host : Host} {entries : Value.Entries} {projectRoot : Path} :
    Escapes (ofEntries host entries projectRoot) ↔ Unforeseen host entries projectRoot := by
  constructor
  · intro h
    rcases Escapes.bind_iff.mp h with hkeys | ⟨_, keys, hbelow⟩
    · obtain ⟨key, mem, unknown, notText⟩ := escapes_checkKeys_iff.mp hkeys
      exact .key key mem unknown notText
    rcases Escapes.bind_iff.mp hbelow with hroot | ⟨root, found, -⟩
    · exact .root keys (Host.escapes_resolve_iff.mp hroot)
    have located : Located host entries projectRoot root := ⟨keys, found⟩
    rcases (escapes_ofEntries_iff_of_located located).mp h with
      hdirectory | ⟨hdirectories, ⟨given, notText⟩ | ⟨named, given, tools, htool⟩⟩
    · obtain ⟨before, setting, after, order, passed, hsetting⟩ := Escapes.mapM_iff.mp hdirectory
      obtain ⟨writable, endless⟩ := escapes_directoryIn_iff.mp hsetting
      exact .directory located before after setting order passed writable endless
    · exact .mergedLibrary ⟨located, hdirectories⟩ given notText
    · obtain ⟨before, text, after, order, passed, htext⟩ :=
        Escapes.mapM_iff.mp (escapes_toolbox_iff_mapM.mp htool)
      exact .tool ⟨located, hdirectories⟩ named tools before after text order passed
        (Executable.escapes_ofSetting_iff.mp htext)
  · intro h
    cases h with
    | key key mem unknown notText =>
      exact Escapes.bind_iff.mpr (.inl (escapes_checkKeys_iff.mpr ⟨key, mem, unknown, notText⟩))
    | root keys endless =>
      refine (Escapes.bind_ok_iff keys).mpr ?_
      exact Escapes.bind_iff.mpr (.inl (Host.escapes_resolve_iff.mpr endless))
    | directory located before after setting order passed writable endless =>
      have hsetting := escapes_directoryIn_iff.mpr ⟨writable, endless⟩
      exact (escapes_ofEntries_iff_of_located located).mpr
        (.inl (Escapes.mapM_iff.mpr ⟨before, setting, after, order, passed, hsetting⟩))
    | mergedLibrary housed given notText =>
      exact (escapes_ofEntries_iff_of_located housed.toLocated).mpr
        (.inr ⟨housed.directories, .inl ⟨given, notText⟩⟩)
    | tool housed named tools before after text order passed homeless =>
      have htext := Executable.escapes_ofSetting_iff.mpr homeless
      have htool := escapes_toolbox_iff_mapM.mpr
        (Escapes.mapM_iff.mpr ⟨before, text, after, order, passed, htext⟩)
      exact (escapes_ofEntries_iff_of_located housed.toLocated).mpr
        (.inr ⟨housed.directories, .inr ⟨named, _, tools, htool⟩⟩)

def configFile (file : Option Path) (projectRoot : Path) : Path :=
  file.getD (projectRoot / usualFile)

/-- The file with the settings is there, and reading its document ends the program. -/
def Unreadable (host : Host) (file : Option Path) (projectRoot : Path) : Prop :=
  ∃ content fault, host.content? (configFile file projectRoot) = some (.ok content) ∧
    host.reader content = .error fault ∧ fault.isReported = false

theorem not_escapes_settingsOf (file : Path) (value : Value) : ¬ Escapes (settingsOf file value) := by
  unfold settingsOf
  split
  · exact Escapes.not_ok _
  · split
    · exact Escapes.not_ok _
    · exact Escapes.not_error rfl

theorem escapes_readFile_iff {host : Host} {file : Path} {content : Except Int Content} :
    Escapes (readFile host file content) ↔ ∃ held fault, content = .ok held ∧
      host.reader held = .error fault ∧ fault.isReported = false := by
  cases content with
  | error code => exact iff_of_false (Escapes.not_error rfl) (by simp)
  | ok held =>
    cases hread : host.reader held with
    | error fault => simp [readFile, hread, Escapes.error_iff, Error.isReported]
    | ok value => simp [readFile, hread, not_escapes_settingsOf]

theorem escapes_settings_iff {host : Host} {file : Option Path} {projectRoot : Path} :
    Escapes (settings host file projectRoot) ↔ Unreadable host file projectRoot := by
  cases file with
  | none =>
    cases hcontent : host.content? (projectRoot / usualFile) <;>
      simp [settings, Unreadable, configFile, hcontent, escapes_readFile_iff, Escapes.not_ok]
  | some file =>
    have hmissing : ¬ Escapes (.error (.fileMissing file.text) : Except Error Value.Entries) :=
      Escapes.not_error rfl
    cases hcontent : host.content? file <;>
      simp [settings, Unreadable, configFile, hcontent, escapes_readFile_iff, hmissing]

theorem escapes_load_iff {host : Host} {file : Option Path} {projectRoot : Path} :
    Escapes (load host file projectRoot) ↔ Unreadable host file projectRoot ∨
      ∃ entries, settings host file projectRoot = .ok entries ∧
        Unforeseen host entries projectRoot := by
  rw [load, Escapes.bind_iff, escapes_settings_iff]
  simp only [escapes_ofEntries_iff]

end Config

end FrameworkForge

import FrameworkForge.Proofs.Config.Shapes

/-! Settings in another order, and without some that are null. They are read as the same settings:
what comes of them is the same configuration or the same error. -/

namespace FrameworkForge

namespace Value.Entries

variable {entries others : Entries} {key : Value} {name : String} {v w : Value}

/-- No key comes twice. -/
def Distinct (entries : Entries) : Prop :=
  entries.Pairwise fun entry later => entry.1.sameKey later.1 = false

theorem key_of_mem_insertKey (h : ∀ entry ∈ entries, key.sameKey entry.1 = false)
    {inserted : Value} (hnew : key.sameKey inserted = false) (v : Value) :
    ∀ entry ∈ insertKey entries inserted v, key.sameKey entry.1 = false := by
  induction entries with
  | nil => simpa [insertKey] using hnew
  | cons first rest ih =>
    obtain ⟨hfirst, hrest⟩ := List.forall_mem_cons.mp h
    rw [insertKey]
    split
    · exact List.forall_mem_cons.mpr ⟨hfirst, hrest⟩
    · exact List.forall_mem_cons.mpr ⟨hfirst, ih hrest⟩

theorem Distinct.insertKey (h : entries.Distinct) (key v : Value) :
    Distinct (insertKey entries key v) := by
  induction entries with
  | nil => exact List.pairwise_singleton _ _
  | cons first rest ih =>
    obtain ⟨hfirst, hrest⟩ := List.pairwise_cons.mp h
    rw [Value.insertKey]
    split
    · exact List.pairwise_cons.mpr ⟨hfirst, hrest⟩
    · next hnew =>
      have hnew : first.1.sameKey key = false := by simpa using hnew
      exact List.pairwise_cons.mpr ⟨key_of_mem_insertKey hfirst hnew v, ih hrest⟩

/-- However often a key is given, a mapping holds it once. -/
theorem distinct_ofList (pairs : List (Value × Value)) : Distinct (ofList pairs) := by
  rw [ofList]
  exact List.foldlRecOn pairs _ .nil fun _ h entry _ => h.insertKey entry.1 entry.2

theorem Distinct.eq_of_mem (h : entries.Distinct) (hv : (.text name, v) ∈ entries)
    (hw : (.text name, w) ∈ entries) : v = w := by
  induction entries with
  | nil => cases hv
  | cons first rest ih =>
    obtain ⟨hfirst, hrest⟩ := List.pairwise_cons.mp h
    have hlater {u u' : Value} (hu : first = (.text name, u)) : (.text name, u') ∉ rest := by
      intro hmem
      have hdiffer := hfirst _ hmem
      simp [hu, sameKey] at hdiffer
    rcases List.mem_cons.mp hv with hv | hv <;> rcases List.mem_cons.mp hw with hw | hw
    · exact congrArg Prod.snd (hv.trans hw.symm)
    · exact absurd hw (hlater hv.symm)
    · exact absurd hv (hlater hw.symm)
    · exact ih hrest hv hw

/-- Where a key has one value only, it does not matter which of its entries is found. -/
theorem get?_eq_some_iff
    (h : ∀ u u', (.text name, u) ∈ entries → (.text name, u') ∈ entries → u = u') :
    entries.get? name = some v ↔ (.text name, v) ∈ entries := by
  refine ⟨mem_of_get?, fun hmem => ?_⟩
  cases hget : entries.get? name with
  | none =>
    have hnone := List.find?_eq_none.mp (Option.map_eq_none_iff.mp hget) _ hmem
    simp [sameKey] at hnone
  | some w => rw [h _ _ (mem_of_get? hget) hmem]

end Value.Entries

namespace Config

open Checks

variable {entries others : Value.Entries}

/-- The same settings in another order, and without some known ones that are null. -/
def Rearranged (entries others : Value.Entries) : Prop :=
  ∃ dropped, entries.Perm (others ++ dropped) ∧
    ∀ entry ∈ dropped, Setting.isKnown entry.1 = true ∧ entry.2 = .null

theorem Rearranged.subset (h : Rearranged entries others) : others ⊆ entries := by
  obtain ⟨dropped, hperm, -⟩ := h
  exact fun entry hentry => hperm.symm.subset (List.mem_append_left dropped hentry)

theorem Rearranged.given_iff (h : Rearranged entries others) (hdistinct : entries.Distinct)
    {setting : Setting} {v : Value} : Given entries setting v ↔ Given others setting v := by
  have hentries {name : String} {u : Value} :
      entries.get? name = some u ↔ (.text name, u) ∈ entries :=
    Value.Entries.get?_eq_some_iff fun _ _ => hdistinct.eq_of_mem
  have hothers {name : String} {u : Value} :
      others.get? name = some u ↔ (.text name, u) ∈ others :=
    Value.Entries.get?_eq_some_iff fun _ _ hu hu' =>
      hdistinct.eq_of_mem (h.subset hu) (h.subset hu')
  constructor
  · rintro ⟨hget, hnull⟩
    obtain ⟨dropped, hperm, hdropped⟩ := h
    rcases List.mem_append.mp (hperm.subset (hentries.mp hget)) with hmem | hmem
    · exact ⟨hothers.mpr hmem, hnull⟩
    · exact absurd (hdropped _ hmem).2 hnull
  · rintro ⟨hget, hnull⟩
    exact ⟨hentries.mpr (h.subset (hothers.mp hget)), hnull⟩

theorem inForce_congr {setting : Setting}
    (h : ∀ v, Given entries setting v ↔ Given others setting v) :
    Setting.inForce entries setting = Setting.inForce others setting := by
  by_cases hgiven : ∃ v, Given entries setting v
  · obtain ⟨v, hv⟩ := hgiven
    rw [inForce_of_given hv, inForce_of_given ((h v).mp hv)]
  · have habsent : ∀ v, ¬ Given entries setting v := fun v hv => hgiven ⟨v, hv⟩
    rw [inForce_of_absent habsent, inForce_of_absent fun v hv => habsent v ((h v).mpr hv)]

theorem Rearranged.perm_unknownKeys (h : Rearranged entries others) :
    (unknownKeys entries).Perm (unknownKeys others) := by
  obtain ⟨dropped, hperm, hdropped⟩ := h
  have hnone : unknownKeys dropped = [] := by
    simp only [unknownKeys, List.filter_eq_nil_iff, List.forall_mem_map]
    intro entry hentry
    simp [(hdropped entry hentry).1]
  have happend : unknownKeys (others ++ dropped) = unknownKeys others ++ unknownKeys dropped := by
    simp [unknownKeys]
  have hall : (unknownKeys entries).Perm (unknownKeys (others ++ dropped)) :=
    (hperm.map Prod.fst).filter _
  rwa [happend, hnone, List.append_nil] at hall

theorem mapM_written_of_isText {keys : List Value} (h : keys.all Value.isText = true) :
    keys.mapM Value.written =
      if keys.all Value.isWritable then .ok (keys.map Value.plain) else .error .halfText := by
  induction keys with
  | nil => rfl
  | cons key keys ih =>
    obtain ⟨hkey, hkeys⟩ : key.isText = true ∧ keys.all Value.isText = true := by simpa using h
    rw [List.mapM_cons, ih hkeys]
    cases key with
    | text s =>
      have hwritten : (Value.text s).written = .ok s :=
        Value.written_eq_ok_iff.mpr ⟨by simp [Value.isWritable, Value.isQuotable,
          Value.isWritableWithin], rfl⟩
      have hwritable : (Value.text s).isWritable = true :=
        (Value.written_eq_ok_iff.mp hwritten).1
      rw [hwritten, List.all_cons, hwritable, Bool.true_and]
      split <;> rfl
    | brokenText letters => rfl
    | _ => cases hkey

theorem checkKeys_eq (entries : Value.Entries) : checkKeys entries =
    if unknownKeys entries = [] then .ok ()
    else if (unknownKeys entries).all Value.isText then
      if (unknownKeys entries).all Value.isWritable
      then .error (.unknownSettings (Text.sorted ((unknownKeys entries).map Value.plain)))
      else .error .halfText
    else .error .unknownSettingKind := by
  rw [checkKeys]
  by_cases hnil : unknownKeys entries = []
  · simp [hnil]
  · rw [if_neg (by simpa using hnil), if_neg hnil]
    split
    · next htexts =>
      rw [mapM_written_of_isText htexts]
      split <;> rfl
    · rfl

theorem checkKeys_congr (h : (unknownKeys entries).Perm (unknownKeys others)) :
    checkKeys entries = checkKeys others := by
  have hnil : unknownKeys entries = [] ↔ unknownKeys others = [] := by
    rw [← List.length_eq_zero_iff, h.length_eq, List.length_eq_zero_iff]
  have hlisted : Text.sorted ((unknownKeys entries).map Value.plain) =
      Text.sorted ((unknownKeys others).map Value.plain) :=
    Text.sorted_congr (h.map Value.plain)
  rw [checkKeys_eq, checkKeys_eq, hlisted, h.all_eq, h.all_eq]
  simp only [hnil]

theorem ofEntries_congr (host : Host) (projectRoot : Path)
    (hkeys : checkKeys entries = checkKeys others)
    (hvalues : ∀ setting, Setting.inForce entries setting = Setting.inForce others setting) :
    ofEntries host entries projectRoot = ofEntries host others projectRoot := by
  have htools : givenTools entries = givenTools others := by
    rw [givenTools, hvalues, givenTools]
  have htargets : targetList entries = targetList others := by
    rw [targetList, hvalues, targetList]
  simp only [ofEntries, hkeys, hvalues, htools, htargets]

/-- Null stands for nothing given, and the order of the settings is of no account. The two readings
have one outcome, whether they make a configuration or fail. -/
theorem resolve_of_rearranged (host : Host) (projectRoot : Path) (hdistinct : entries.Distinct)
    (h : Rearranged entries others) (identity identity' : Option Nat) :
    resolve host (.map entries identity) projectRoot =
      resolve host (.map others identity') projectRoot := by
  have hkeys : checkKeys entries = checkKeys others := checkKeys_congr h.perm_unknownKeys
  have hvalues (setting : Setting) :
      Setting.inForce entries setting = Setting.inForce others setting :=
    inForce_congr fun _ => h.given_iff hdistinct
  rw [resolve_map, resolve_map]
  exact ofEntries_congr host projectRoot hkeys hvalues

/-- Two settings that count, between two that are null. -/
def nullSettings : Value.Entries :=
  .ofList [(.text "tools", .null), (.text "language", .text "kotlin"),
    (.text "bindgen_bin", .text "generator"), (.text "crate", .null)]

theorem resolve_of_rearranged_null :
    let others : Value.Entries :=
      [(.text "bindgen_bin", .text "generator"), (.text "language", .text "kotlin")]
    nullSettings.Distinct ∧ Rearranged nullSettings others ∧
      ∃ c, resolve Host.plain (.map nullSettings none) (Path.parse "/project") = .ok c ∧
        resolve Host.plain (.map others none) (Path.parse "/project") = .ok c ∧
        c.language = .text "kotlin" := by
  intro others
  let dropped : Value.Entries := [(.text "tools", .null), (.text "crate", .null)]
  have hdistinct : nullSettings.Distinct := Value.Entries.distinct_ofList _
  have hperm : nullSettings.Perm (others ++ dropped) :=
    (List.reverse_perm (others ++ dropped.take 1)).append_right (dropped.drop 1)
  have hdropped : ∀ entry ∈ dropped, Setting.isKnown entry.1 = true ∧ entry.2 = .null := by
    have hknown (setting : Setting) : Setting.isKnown (.text setting.key) = true :=
      Setting.isKnown_of_sameKey (Value.sameKey_text_iff.mpr rfl)
    simpa [dropped] using ⟨hknown .tools, hknown .crate⟩
  have hrearranged : Rearranged nullSettings others := ⟨dropped, hperm, hdropped⟩
  obtain ⟨tools, h, -⟩ := exists_resolved_plain (Path.parse "/project") rfl (by decide)
  let c : Config :=
    { usual (Path.parse "/project") tools with
      language := .text "kotlin"
      bindgenBinary := .text "generator" }
  have hc : resolve Host.plain (.map others none) (Path.parse "/project") = .ok c :=
    resolve_eq_ok_iff.mpr ⟨others, rfl, { h with bindgenBinary := rfl, language := rfl }⟩
  refine ⟨hdistinct, hrearranged, c, ?_, hc, rfl⟩
  exact (resolve_of_rearranged Host.plain _ hdistinct hrearranged none none).trans hc

end Config

end FrameworkForge

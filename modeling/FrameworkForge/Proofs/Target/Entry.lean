import FrameworkForge.Proofs.Config.Toolbox

/-! What an entry of the settings says of its target: the texts of three fields, and overrides of
which the last one under a name counts. An entry is read when all of these can be told. -/

namespace FrameworkForge

open Checks

namespace Target

/-- The field has a value that counts as given, and this is its text. -/
def HasText (entries : Value.Entries) (field text : String) : Prop :=
  ∃ value, Value.Entries.get? entries field = some value ∧ value.isGiven = true ∧
    value.plain = text

def overrideEntries (entries : Value.Entries) : Value.Entries :=
  match Value.Entries.get? entries "env" with
  | some (.map overrides _) => overrides
  | _ => []

/-- The entry of the settings stands for the target. -/
inductive Describes : Value → Target → Prop
  | entry {entries : Value.Entries} {identity : Option Nat} {t : Target}
      (name : HasText entries "name" t.name) (triple : HasText entries "triple" t.triple)
      (platform : HasText entries "platform" t.platform.text)
      (quoted : ∀ override ∈ overrideEntries entries, override.2.isText = true)
      (overrides : ∀ name, t.overrides.get? name = (overrideEntries entries).lastText? name) :
      Describes (.map entries identity) t

variable {entries overrides : Value.Entries} {identity : Option Nat} {field text : String}
  {v target : Value} {t : Target}

/-- A field that is given and whose text can be written. -/
def Spells (entries : Value.Entries) (field text : String) : Prop :=
  ∃ v, given? entries field = some v ∧ v.written = .ok text

theorem spells_iff : Spells entries field text ↔
    HasText entries field text ∧ ∀ v, entries.get? field = some v → v.isWritable = true := by
  simp only [Spells, HasText, given?, Option.filter_eq_some_iff, Value.written_eq_ok_iff]
  constructor
  · rintro ⟨v, ⟨hget, hgiven⟩, hwritable, hplain⟩
    refine ⟨⟨v, hget, hgiven, hplain⟩, fun w hw => ?_⟩
    rw [hget] at hw
    exact Option.some.inj hw ▸ hwritable
  · rintro ⟨⟨v, hget, hgiven, hplain⟩, hwritable⟩
    exact ⟨v, ⟨hget, hgiven⟩, hwritable v hget, hplain⟩

theorem spells_iff_written (h : (given? entries field).isSome = true) :
    Spells entries field text ↔ ((given? entries field).getD .null).written = .ok text := by
  obtain ⟨v, hv⟩ := Option.isSome_iff_exists.mp h
  simp [Spells, hv]

theorem unquoted_eq_nil_iff :
    unquoted overrides = .ok [] ↔ ∀ override ∈ overrides, override.2.isText = true := by
  constructor
  · intro h
    obtain ⟨names, hnames, h⟩ := bind_eq_ok_iff.mp h
    have hsorted : Text.sorted names = [] := Except.ok.inj h
    have hperm := Text.perm_sorted names
    rw [hsorted] at hperm
    rw [← hperm.nil_eq, mapM_eq_ok_iff, List.forall₂_nil_right_iff,
      List.filter_eq_nil_iff] at hnames
    simpa using hnames
  · intro htexts
    have hnone : overrides.filter (fun override => !override.2.isText) = [] := by
      simpa [List.filter_eq_nil_iff] using htexts
    rw [unquoted, hnone]
    exact bind_eq_ok_iff.mpr ⟨[], rfl, by simp [Text.sorted, pure, Except.pure]⟩

/-- Overrides that count as given are a mapping to texts. -/
def QuotedOverrides (entries : Value.Entries) : Prop :=
  ∀ env, entries.get? "env" = some env → env.isGiven = true →
    ∃ overrides identity, env = .map overrides identity ∧
      ∀ override ∈ overrides, override.2.isText = true

theorem quotedOverrides_iff : QuotedOverrides entries ↔
    ∀ env, given? entries "env" = some env →
      ∃ overrides identity, env = .map overrides identity ∧
        ∀ override ∈ overrides, override.2.isText = true := by
  simp only [given?, Option.filter_eq_some_iff, and_imp]
  rfl

theorem overrideEntries_of_given? (h : given? entries "env" = some (.map overrides identity)) :
    overrideEntries entries = overrides := by
  rw [overrideEntries, (Option.filter_eq_some_iff.mp h).1]

/-- A mapping that does not count as given is empty. -/
theorem overrideEntries_of_given?_none (h : given? entries "env" = none) :
    overrideEntries entries = [] := by
  rw [overrideEntries]
  split
  · next given identity henv =>
    have hempty : (Value.map given identity).isGiven = false := by
      simpa [given?, henv] using h
    simpa [Value.isGiven] using hempty
  · rfl

theorem overridesOf_of_map {given : Value.Entries}
    (h : given? entries "env" = some (.map given identity)) :
    overridesOf target entries = .ok overrides ↔ unquoted given = .ok [] ∧ overrides = given := by
  rw [overridesOf, h]
  constructor
  · intro hok
    obtain ⟨names, hnames, hok⟩ := bind_eq_ok_iff.mp hok
    cases names with
    | nil =>
      cases hok
      exact ⟨hnames, rfl⟩
    | cons name names =>
      obtain ⟨_, -, hok⟩ := bind_eq_ok_iff.mp hok
      cases hok
  · rintro ⟨hnone, rfl⟩
    exact bind_eq_ok_iff.mpr ⟨[], hnone, rfl⟩

theorem overridesOf_eq_ok_iff : overridesOf target entries = .ok overrides ↔
    QuotedOverrides entries ∧ overrides = overrideEntries entries := by
  rw [quotedOverrides_iff]
  cases henv : given? entries "env" with
  | none =>
    rw [overridesOf, henv, overrideEntries_of_given?_none henv]
    simp only [Except.ok.injEq, reduceCtorEq, false_implies, implies_true, true_and]
    exact eq_comm
  | some env =>
    cases env with
    | map given identity =>
      rw [overridesOf_of_map henv, unquoted_eq_nil_iff, overrideEntries_of_given? henv]
      simp
    | _ =>
      refine iff_of_false (fun hok => ?_) (by simp)
      rw [overridesOf, henv] at hok
      obtain ⟨_, -, hok⟩ := bind_eq_ok_iff.mp hok
      cases hok

theorem isText_of_quotedOverrides (h : QuotedOverrides entries) :
    ∀ override ∈ overrideEntries entries, override.2.isText = true := by
  rw [overrideEntries]
  split
  · next given identity henv =>
    intro override hoverride
    have hgiven : (Value.map given identity).isGiven = true := by
      simpa [Value.isGiven] using List.ne_nil_of_mem hoverride
    obtain ⟨_, _, hmap, htexts⟩ := h _ henv hgiven
    cases hmap
    exact htexts override hoverride
  · simp

theorem missing_eq_nil_iff :
    requiredFields.filter (fun field => (given? entries field).isNone) = [] ↔
      ∀ field ∈ requiredFields, (given? entries field).isSome = true := by
  simp [List.filter_eq_nil_iff, Option.isSome_iff_ne_none]

theorem build_eq_ok_iff {name triple platform : String} :
    build name triple platform overrides = .ok t ↔ t.name = name ∧ t.triple = triple ∧
      Platform.ofText? platform = some t.platform ∧
      Environment.ofEntries overrides = .ok t.overrides := by
  obtain ⟨name', triple', platform', overrides'⟩ := t
  rw [build]
  cases Platform.ofText? platform with
  | none => simp
  | some platform =>
    cases Environment.ofEntries overrides <;>
      simp [bind, Except.bind, pure, Except.pure, eq_comm]

theorem ofValue_map_eq_ok_iff : ofValue (.map entries identity) = .ok t ↔
    Spells entries "name" t.name ∧ Spells entries "triple" t.triple ∧
      Spells entries "platform" t.platform.text ∧ QuotedOverrides entries ∧
      Environment.ofEntries (overrideEntries entries) = .ok t.overrides := by
  constructor
  · intro h
    rw [ofValue] at h
    split at h
    · next hnone =>
      have hgiven := missing_eq_nil_iff.mp hnone
      obtain ⟨overrides, hoverrides, h⟩ := bind_eq_ok_iff.mp h
      obtain ⟨name, hname, h⟩ := bind_eq_ok_iff.mp h
      obtain ⟨triple, htriple, h⟩ := bind_eq_ok_iff.mp h
      obtain ⟨platform, hplatform, h⟩ := bind_eq_ok_iff.mp h
      obtain ⟨hquoted, rfl⟩ := overridesOf_eq_ok_iff.mp hoverrides
      obtain ⟨rfl, rfl, hknown, henv⟩ := build_eq_ok_iff.mp h
      obtain rfl := Platform.ofText?_eq_some_iff.mp hknown
      exact ⟨(spells_iff_written (hgiven _ (by decide))).mpr hname,
        (spells_iff_written (hgiven _ (by decide))).mpr htriple,
        (spells_iff_written (hgiven _ (by decide))).mpr hplatform, hquoted, henv⟩
    · obtain ⟨_, _, h⟩ := bind_eq_ok_iff.mp h
      cases h
  · rintro ⟨⟨name, hname, hname'⟩, ⟨triple, htriple, htriple'⟩, ⟨platform, hplatform, hplatform'⟩,
      hquoted, henv⟩
    have hnone : requiredFields.filter (fun field => (given? entries field).isNone) = [] := by
      simp [requiredFields, hname, htriple, hplatform]
    simp only [ofValue, hnone, hname, htriple, hplatform, Option.getD_some]
    refine bind_eq_ok_iff.mpr ⟨_, overridesOf_eq_ok_iff.mpr ⟨hquoted, rfl⟩, ?_⟩
    refine bind_eq_ok_iff.mpr ⟨_, hname', ?_⟩
    refine bind_eq_ok_iff.mpr ⟨_, htriple', ?_⟩
    refine bind_eq_ok_iff.mpr ⟨_, hplatform', ?_⟩
    exact build_eq_ok_iff.mpr ⟨rfl, rfl, Platform.ofText?_eq_some_iff.mpr rfl, henv⟩

theorem exists_map_of_ofValue (h : ofValue v = .ok t) :
    ∃ entries identity, v = .map entries identity := by
  cases v with
  | map entries identity => exact ⟨entries, identity, rfl⟩
  | _ =>
    obtain ⟨_, -, h⟩ := bind_eq_ok_iff.mp h
    cases h

theorem describes_of_ofValue {item : Value} (h : ofValue item = .ok t) : Describes item t := by
  obtain ⟨entries, identity, rfl⟩ := exists_map_of_ofValue h
  obtain ⟨hname, htriple, hplatform, hquoted, henv⟩ := ofValue_map_eq_ok_iff.mp h
  exact .entry (spells_iff.mp hname).1 (spells_iff.mp htriple).1 (spells_iff.mp hplatform).1
    (isText_of_quotedOverrides hquoted) (Environment.get?_of_ofEntries henv)

end Target

end FrameworkForge

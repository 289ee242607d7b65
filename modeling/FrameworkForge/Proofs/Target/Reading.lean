import FrameworkForge.Proofs.Config.Shapes
import FrameworkForge.Proofs.Config.Targets

/-! Which entries of the settings are read as targets, and why the others are refused. An entry is
read when its fields and overrides are in order and can be written as texts. -/

namespace FrameworkForge

open Checks

namespace Value

variable {v : Value} {text : String} {e : Error}

theorem written_eq_error_iff :
    v.written = .error e ↔ v.isWritable = false ∧ e = v.unwritable := by
  rw [written, checkWritable]
  cases v.isWritable with
  | true => simp [bind, Except.bind, pure, Except.pure]
  | false => simp [bind, Except.bind, eq_comm]

theorem shown_eq_ok_iff : v.shown = .ok text ↔ v.isQuotable = true ∧ v.quoted = text := by
  rw [shown]
  split <;> simp_all

theorem shown_eq_error_iff :
    v.shown = .error e ↔ v.isQuotable = false ∧ e = .integerNotWritable := by
  rw [shown]
  cases v.isQuotable with
  | true => simp
  | false => simp [eq_comm]

theorem isQuotable_of_isWritable (h : v.isWritable = true) : v.isQuotable = true := by
  cases v with
  | brokenText _ => cases h
  | _ => exact h

theorem isQuotable_of_isText (h : v.isText = true) : v.isQuotable = true := by
  cases v with
  | text _ => simp [isQuotable, isWritableWithin]
  | brokenText _ => simp [isQuotable, isWritableWithin]
  | _ => cases h

theorem written_cases (v : Value) :
    v.written = .ok v.plain ∨ v.IsHalf ∧ v.written = .error .halfText ∨
      v.isQuotable = false ∧ v.written = .error .integerNotWritable := by
  cases hwritable : v.isWritable with
  | true => exact .inl (written_eq_ok_iff.mpr ⟨hwritable, rfl⟩)
  | false =>
    have herror : v.written = .error v.unwritable := written_eq_error_iff.mpr ⟨hwritable, rfl⟩
    rw [herror]
    rcases isWritable_eq_false_iff.mp hwritable with ⟨hhalf, h⟩ | ⟨hlong, h⟩
    · exact .inr (.inl ⟨hhalf, by rw [h]⟩)
    · exact .inr (.inr ⟨hlong, by rw [h]⟩)

theorem written_of_isQuotable (h : v.isQuotable = true) :
    v.written = .ok v.plain ∨ v.written = .error .halfText := by
  rcases v.written_cases with hok | ⟨-, hhalf⟩ | ⟨hlong, -⟩
  · exact .inl hok
  · exact .inr hhalf
  · simp [h] at hlong

end Value

namespace Environment

theorem assignmentOf_eq_error {entry : Value × Value} {e : Error}
    (h : assignmentOf entry = .error e) :
    entry.1.written = .error e ∨ entry.2.written = .error e := by
  rcases bind_eq_error_iff.mp h with hkey | ⟨_, -, h⟩
  · exact .inl hkey
  rcases bind_eq_error_iff.mp h with hvalue | ⟨_, -, h⟩
  · exact .inr hvalue
  · cases h

theorem exists_of_ofEntries_error {entries : Value.Entries} {e : Error}
    (h : ofEntries entries = .error e) :
    ∃ entry ∈ entries, entry.1.written = .error e ∨ entry.2.written = .error e := by
  rcases bind_eq_error_iff.mp h with h | ⟨_, -, h⟩
  · obtain ⟨entry, hentry, h⟩ := exists_error_of_mapM h
    exact ⟨entry, hentry, assignmentOf_eq_error h⟩
  · cases h

/-- Entries without a long number are read, unless one of their texts is half a text. -/
theorem ofEntries_of_isQuotable {entries : Value.Entries}
    (h : ∀ entry ∈ entries, entry.1.isQuotable = true ∧ entry.2.isQuotable = true) :
    (∃ env, ofEntries entries = .ok env) ∨ ofEntries entries = .error .halfText := by
  cases hread : ofEntries entries with
  | ok env => exact .inl ⟨env, rfl⟩
  | error e =>
    obtain ⟨entry, hentry, herror⟩ := exists_of_ofEntries_error hread
    have hhalf (v : Value) (hv : v.isQuotable = true) (herror : v.written = .error e) :
        e = .halfText := by
      rcases Value.written_of_isQuotable hv with h | h
      · simp [h] at herror
      · rw [h] at herror
        exact (Except.error.inj herror).symm
    rcases herror with hkey | hvalue
    · exact .inr (by rw [hhalf _ (h entry hentry).1 hkey])
    · exact .inr (by rw [hhalf _ (h entry hentry).2 hvalue])

theorem isQuotable_of_ofEntries {entries : Value.Entries} {env : Environment}
    (h : ofEntries entries = .ok env) : ∀ entry ∈ entries, entry.1.isQuotable = true := by
  intro entry hentry
  obtain ⟨assignments, hread, -⟩ := bind_eq_ok_iff.mp h
  obtain ⟨assignment, hassignment⟩ := exists_mapM_iff.mp ⟨_, hread⟩ entry hentry
  obtain ⟨hkey, -⟩ := assignmentOf_eq_ok_iff.mp hassignment
  exact Value.isQuotable_of_isWritable (Value.written_eq_ok_iff.mp hkey).1

end Environment

namespace Target

variable {entries overrides : Value.Entries} {identity : Option Nat} {field text : String}
  {v target : Value} {t : Target} {e : Error}

/-- The fields and the overrides of an entry are in order. -/
structure WellFormed (entries : Value.Entries) : Prop where
  name : ∃ text, HasText entries "name" text
  triple : ∃ text, HasText entries "triple" text
  platform : ∃ platform : Platform, HasText entries "platform" platform.text
  overrides : QuotedOverrides entries

/-- What becomes a text of the target can be written: no number in it is too long. -/
structure Spellable (entries : Value.Entries) : Prop where
  fields : ∀ field ∈ requiredFields, ∀ v, entries.get? field = some v → v.isQuotable = true
  overrides : ∀ override ∈ overrideEntries entries, override.1.isQuotable = true

theorem HasText.isSome_given? (h : HasText entries field text) :
    (given? entries field).isSome = true := by
  obtain ⟨v, hget, hgiven, -⟩ := h
  exact Option.isSome_iff_exists.mpr ⟨v, Option.filter_eq_some_iff.mpr ⟨hget, hgiven⟩⟩

theorem WellFormed.missing_eq_nil (h : WellFormed entries) :
    requiredFields.filter (fun field => (given? entries field).isNone) = [] := by
  obtain ⟨⟨_, hname⟩, ⟨_, htriple⟩, ⟨_, hplatform⟩, -⟩ := h
  rw [missing_eq_nil_iff]
  simpa [requiredFields] using
    ⟨hname.isSome_given?, htriple.isSome_given?, hplatform.isSome_given?⟩

theorem wellFormed_of_ofValue (h : ofValue v = .ok t) :
    ∃ entries identity, v = .map entries identity ∧ WellFormed entries ∧ Spellable entries := by
  obtain ⟨entries, identity, rfl⟩ := exists_map_of_ofValue h
  obtain ⟨hname, htriple, hplatform, hquoted, henv⟩ := ofValue_map_eq_ok_iff.mp h
  obtain ⟨hname, hnameWritable⟩ := spells_iff.mp hname
  obtain ⟨htriple, htripleWritable⟩ := spells_iff.mp htriple
  obtain ⟨hplatform, hplatformWritable⟩ := spells_iff.mp hplatform
  have hfields : ∀ field ∈ requiredFields, ∀ v : Value,
      Value.Entries.get? entries field = some v → v.isWritable = true := by
    simpa [requiredFields] using ⟨hnameWritable, htripleWritable, hplatformWritable⟩
  refine ⟨entries, identity, rfl, ⟨⟨_, hname⟩, ⟨_, htriple⟩, ⟨_, hplatform⟩, hquoted⟩, ?_, ?_⟩
  · exact fun field hfield v hv => Value.isQuotable_of_isWritable (hfields field hfield v hv)
  · exact Environment.isQuotable_of_ofEntries henv

/-- A field of an entry in order becomes its text, unless that is half a text. -/
theorem HasText.written_cases (h : HasText entries field text)
    (hspellable : ∀ v, entries.get? field = some v → v.isQuotable = true) :
    ((given? entries field).getD .null).written = .ok text ∨
      ((given? entries field).getD .null).written = .error .halfText := by
  obtain ⟨v, hget, hgiven, rfl⟩ := h
  have hv : given? entries field = some v := Option.filter_eq_some_iff.mpr ⟨hget, hgiven⟩
  rw [hv, Option.getD_some]
  exact Value.written_of_isQuotable (hspellable v hget)

theorem build_cases {name triple : String} (platform : Platform)
    (h : ∀ override ∈ overrides, override.1.isQuotable = true ∧ override.2.isQuotable = true) :
    (∃ t, build name triple platform.text overrides = .ok t) ∨
      build name triple platform.text overrides = .error .halfText := by
  rw [build, Platform.ofText?_eq_some_iff.mpr rfl]
  rcases Environment.ofEntries_of_isQuotable h with ⟨env, henv⟩ | henv
  · exact .inl ⟨_, bind_eq_ok_iff.mpr ⟨env, henv, rfl⟩⟩
  · exact .inr (bind_eq_error_iff.mpr (.inl henv))

/-- An entry in order that can be written is read as a target, unless half a text is in it. -/
theorem ofValue_of_wellFormed (h : WellFormed entries) (hspellable : Spellable entries) :
    (∃ t, ofValue (.map entries identity) = .ok t) ∨
      ofValue (.map entries identity) = .error .halfText := by
  obtain ⟨⟨name, hname⟩, ⟨triple, htriple⟩, ⟨platform, hplatform⟩, hquoted⟩ := id h
  have hoverrides : ∀ override ∈ overrideEntries entries,
      override.1.isQuotable = true ∧ override.2.isQuotable = true := by
    intro override hoverride
    refine ⟨hspellable.overrides override hoverride, ?_⟩
    exact Value.isQuotable_of_isText (isText_of_quotedOverrides hquoted override hoverride)
  have hread : overridesOf ((given? entries "name").getD .null) entries =
      .ok (overrideEntries entries) := overridesOf_eq_ok_iff.mpr ⟨hquoted, rfl⟩
  simp only [ofValue, h.missing_eq_nil]
  rw [hread]
  rcases hname.written_cases (hspellable.fields _ (by decide)) with hname | hname
  · rcases htriple.written_cases (hspellable.fields _ (by decide)) with htriple | htriple
    · rcases hplatform.written_cases (hspellable.fields _ (by decide)) with hplatform | hplatform
      · simp only [hname, htriple, hplatform]
        exact build_cases platform hoverrides
      · simp only [hname, htriple, hplatform]
        exact .inr rfl
    · simp only [hname, htriple]
      exact .inr rfl
  · simp only [hname]
    exact .inr rfl

def longNumber : Int :=
  Int.ofNat (Nat.pow 16 3600)

/-- Nothing is wrong with the entry but the length of its name, a number of 4335 digits. -/
def numberedEntry : Value.Entries :=
  [(.text "name", .int longNumber), (.text "triple", .text "aarch64-apple-ios"),
    (.text "platform", .text "device")]

/-- An entry can be in order and still not be read. -/
theorem not_read_of_long_name : WellFormed numberedEntry ∧
    ofValue (.map numberedEntry none) = .error .integerNotWritable ∧
    ∀ t, ofValue (.map numberedEntry none) ≠ .ok t := by
  have hnumber : Number.isWritable longNumber = false := by decide +kernel
  have hlong : (Value.int longNumber).isWritable = false := by
    simp only [Value.isWritable, Value.isQuotable, Value.isWritableWithin]
    exact hnumber
  have hgiven : (Value.int longNumber).isGiven = true := by decide +kernel
  have hwellFormed : WellFormed numberedEntry := {
    name := ⟨_, .int longNumber, rfl, hgiven, rfl⟩
    triple := ⟨_, .text "aarch64-apple-ios", rfl, by decide, rfl⟩
    platform := ⟨.device, .text "device", rfl, by decide, rfl⟩
    overrides := by
      intro env henv
      cases henv }
  have hname : given? numberedEntry "name" = some (.int longNumber) :=
    Option.filter_eq_some_iff.mpr ⟨rfl, hgiven⟩
  have herror : ofValue (.map numberedEntry none) = .error .integerNotWritable := by
    simp only [ofValue, hwellFormed.missing_eq_nil, hname, Option.getD_some]
    refine bind_eq_error_iff.mpr (.inr ⟨[], ?_, ?_⟩)
    · exact overridesOf_eq_ok_iff.mpr ⟨hwellFormed.overrides, rfl⟩
    · exact bind_eq_error_iff.mpr (.inl (Value.written_eq_error_iff.mpr ⟨hlong, rfl⟩))
  refine ⟨hwellFormed, herror, fun t ht => ?_⟩
  rw [herror] at ht
  cases ht

/-- What may be written out when an entry is read: all of it, or one of its values, or the name or
the value of an override. -/
def parts : Value → List Value
  | .map entries identity =>
    .map entries identity :: entries.map Prod.snd ++
      (overrideEntries entries).flatMap fun override => [override.1, override.2]
  | entry => [entry]

/-- Why an entry is not read. -/
inductive Refused : Value → Error → Prop
  | notMapping {v : Value} (kind : v.isMapping = false) : Refused v (.targetNotMapping v.quoted)
  | missing {entries : Value.Entries} {identity : Option Nat} {fields : List String}
      (fields_eq : fields = requiredFields.filter fun field => (given? entries field).isNone)
      (some : fields ≠ []) :
      Refused (.map entries identity)
        (.targetFieldsMissing (Value.map entries identity).quoted fields)
  | overridesNotMapping {entries : Value.Entries} {identity : Option Nat} {name : String}
      {env : Value} (name_text : HasText entries "name" name)
      (given : entries.get? "env" = some env) (counts : env.isGiven = true)
      (kind : env.isMapping = false) :
      Refused (.map entries identity) (.overridesNotMapping name)
  | overridesNotText {entries : Value.Entries} {identity : Option Nat} {name : String}
      {names : List String} (name_text : HasText entries "name" name)
      (names_eq : names = Text.sorted
        (((overrideEntries entries).filter fun override => !override.2.isText).map
          fun override => override.1.plain))
      (some : names ≠ []) :
      Refused (.map entries identity) (.overridesNotText name names)
  | unknownPlatform {entries : Value.Entries} {identity : Option Nat} {name text : String}
      (name_text : HasText entries "name" name) (platform_text : HasText entries "platform" text)
      (unknown : ∀ platform : Platform, platform.text ≠ text) :
      Refused (.map entries identity) (.unknownPlatform name text)
  | notWritable {v part : Value} (mem : part ∈ parts v) (long : part.isQuotable = false) :
      Refused v .integerNotWritable
  | halfText {v part : Value} (mem : part ∈ parts v) (half : part.IsHalf) : Refused v .halfText

theorem mem_parts_of_given? (h : given? entries field = some v) :
    v ∈ parts (.map entries identity) := by
  have hmem := Value.Entries.mem_of_get? (Option.filter_eq_some_iff.mp h).1
  exact List.mem_append_left _ (List.mem_cons_of_mem _ (List.mem_map_of_mem hmem))

theorem mem_parts_of_override {override : Value × Value}
    (h : override ∈ overrideEntries entries) :
    override.1 ∈ parts (.map entries identity) ∧ override.2 ∈ parts (.map entries identity) :=
  ⟨List.mem_append_right _ (List.mem_flatMap.mpr ⟨override, h, by simp⟩),
    List.mem_append_right _ (List.mem_flatMap.mpr ⟨override, h, by simp⟩)⟩

theorem refused_of_written (hmem : v ∈ parts target) (h : v.written = .error e) :
    Refused target e := by
  rcases v.written_cases with hok | ⟨hhalf, herror⟩ | ⟨hlong, herror⟩
  · simp [hok] at h
  · rw [herror] at h
    exact Except.error.inj h ▸ .halfText hmem hhalf
  · rw [herror] at h
    exact Except.error.inj h ▸ .notWritable hmem hlong

theorem refused_of_shown (hmem : v ∈ parts target) (h : v.shown = .error e) :
    Refused target e := by
  obtain ⟨hlong, rfl⟩ := Value.shown_eq_error_iff.mp h
  exact .notWritable hmem hlong

theorem names_of_unquoted {names : List String} (h : unquoted overrides = .ok names) :
    names = Text.sorted ((overrides.filter fun override => !override.2.isText).map
      fun override => override.1.plain) := by
  obtain ⟨written, hwritten, h⟩ := bind_eq_ok_iff.mp h
  have hplain : ∀ (override : Value × Value) text, override.1.written = .ok text →
      override.1.plain = text := fun _ _ h => (Value.written_eq_ok_iff.mp h).2
  rw [eq_map_of_mapM hplain hwritten]
  exact (Except.ok.inj h).symm

theorem refused_of_overridesOf {name : Value} (hname : given? entries "name" = some name)
    (h : overridesOf name entries = .error e) : Refused (.map entries identity) e := by
  have hmem : name ∈ parts (.map entries identity) := mem_parts_of_given? hname
  rw [overridesOf] at h
  split at h
  · cases h
  · next overrides _ henv =>
    have hentries := overrideEntries_of_given? henv
    rcases bind_eq_error_iff.mp h with h | ⟨names, hnames, h⟩
    · rcases bind_eq_error_iff.mp h with h | ⟨_, -, h⟩
      · obtain ⟨override, hoverride, h⟩ := exists_error_of_mapM h
        have hoverride := List.mem_of_mem_filter hoverride
        exact refused_of_written (mem_parts_of_override (hentries ▸ hoverride)).1 h
      · cases h
    · cases names with
      | nil => cases h
      | cons first rest =>
        rcases bind_eq_error_iff.mp h with h | ⟨text, htext, h⟩
        · exact refused_of_written hmem h
        · cases h
          refine .overridesNotText (spells_iff.mp ⟨name, hname, htext⟩).1 ?_ (by simp)
          rw [hentries]
          exact names_of_unquoted hnames
  · next env hnotMap henv =>
    obtain ⟨hget, hgiven⟩ := Option.filter_eq_some_iff.mp henv
    have hkind : env.isMapping = false := by
      cases env with
      | map overrides identity => exact absurd rfl (hnotMap overrides identity)
      | _ => rfl
    rcases bind_eq_error_iff.mp h with h | ⟨text, htext, h⟩
    · exact refused_of_written hmem h
    · cases h
      exact .overridesNotMapping (spells_iff.mp ⟨name, hname, htext⟩).1 hget hgiven hkind

theorem refused_of_ofEntries (h : Environment.ofEntries (overrideEntries entries) = .error e) :
    Refused (.map entries identity) e := by
  obtain ⟨override, hoverride, hkey | hvalue⟩ := Environment.exists_of_ofEntries_error h
  · exact refused_of_written (mem_parts_of_override hoverride).1 hkey
  · exact refused_of_written (mem_parts_of_override hoverride).2 hvalue

theorem refused_of_build {nameText tripleText platformText : String}
    (hname : Spells entries "name" nameText) (hplatform : Spells entries "platform" platformText)
    (h : build nameText tripleText platformText (overrideEntries entries) = .error e) :
    Refused (.map entries identity) e := by
  rw [build] at h
  split at h
  · rcases bind_eq_error_iff.mp h with h | ⟨_, -, h⟩
    · exact refused_of_ofEntries h
    · cases h
  · next hunknown =>
    cases h
    refine .unknownPlatform (spells_iff.mp hname).1 (spells_iff.mp hplatform).1
      fun known hknown => ?_
    rw [← hknown, Platform.ofText?_eq_some_iff.mpr rfl] at hunknown
    cases hunknown

/-- The overrides are looked at before the texts of the three fields. -/
theorem refused_of_fields {name triple platform : Value}
    (hname : given? entries "name" = some name) (htriple : given? entries "triple" = some triple)
    (hplatform : given? entries "platform" = some platform)
    (h : (do
      let overrides ← overridesOf name entries
      let nameText ← name.written
      let tripleText ← triple.written
      let platformText ← platform.written
      build nameText tripleText platformText overrides) = .error e) :
    Refused (.map entries identity) e := by
  rcases bind_eq_error_iff.mp h with h | ⟨overrides, hoverrides, h⟩
  · exact refused_of_overridesOf hname h
  obtain ⟨-, rfl⟩ := overridesOf_eq_ok_iff.mp hoverrides
  rcases bind_eq_error_iff.mp h with h | ⟨nameText, hnameText, h⟩
  · exact refused_of_written (mem_parts_of_given? hname) h
  rcases bind_eq_error_iff.mp h with h | ⟨tripleText, -, h⟩
  · exact refused_of_written (mem_parts_of_given? htriple) h
  rcases bind_eq_error_iff.mp h with h | ⟨platformText, hplatformText, h⟩
  · exact refused_of_written (mem_parts_of_given? hplatform) h
  exact refused_of_build ⟨name, hname, hnameText⟩ ⟨platform, hplatform, hplatformText⟩ h

theorem refused_of_ofValue (h : ofValue v = .error e) : Refused v e := by
  cases v with
  | map entries identity =>
    rw [ofValue] at h
    split at h
    · next hnone =>
      have hgiven := missing_eq_nil_iff.mp hnone
      obtain ⟨name, hname⟩ := Option.isSome_iff_exists.mp (hgiven "name" (by decide))
      obtain ⟨triple, htriple⟩ := Option.isSome_iff_exists.mp (hgiven "triple" (by decide))
      obtain ⟨platform, hplatform⟩ := Option.isSome_iff_exists.mp (hgiven "platform" (by decide))
      simp only [hname, htriple, hplatform, Option.getD_some] at h
      exact refused_of_fields hname htriple hplatform h
    · next fields hsome =>
      rcases bind_eq_error_iff.mp h with h | ⟨shown, hshown, h⟩
      · exact refused_of_shown List.mem_cons_self h
      · cases h
        rw [← (Value.shown_eq_ok_iff.mp hshown).2]
        exact .missing rfl hsome
  | _ =>
    rcases bind_eq_error_iff.mp h with h | ⟨shown, hshown, h⟩
    · exact refused_of_shown List.mem_cons_self h
    · cases h
      rw [← (Value.shown_eq_ok_iff.mp hshown).2]
      exact .notMapping rfl

/-- What comes of an entry: the target that it describes, or an error for what is wrong with it.
Whether an entry is read that half a text is met in, is left open. -/
structure Reads (entry : Value) : Prop where
  accepts : ofValue entry ≠ .error .halfText → ((∃ t, ofValue entry = .ok t) ↔
    ∃ entries identity, entry = .map entries identity ∧ WellFormed entries ∧ Spellable entries)
  describes : ∀ t, ofValue entry = .ok t → Describes entry t
  refuses : ∀ e, ofValue entry = .error e → Refused entry e

theorem reads (entry : Value) : Reads entry where
  accepts hhalf := by
    constructor
    · exact fun ⟨t, h⟩ => wellFormed_of_ofValue h
    · rintro ⟨entries, identity, rfl, hwellFormed, hspellable⟩
      exact (ofValue_of_wellFormed hwellFormed hspellable).resolve_right hhalf
  describes _ := describes_of_ofValue
  refuses _ := refused_of_ofValue

/-- Two names have one text, and the last value under it counts. -/
example : (ofValue (.map [(.text "name", .bool true), (.text "triple", .text "aarch64-apple-ios"),
    (.text "platform", .text "device"),
    (.text "env", .map [(.null, .text "17.1"), (.text "None", .text "17.10")] none)] none)).map
      (fun t => (t.name, t.overrides.entries)) = .ok ("True", [("None", "17.10")]) := by
  cbv

end Target

end FrameworkForge

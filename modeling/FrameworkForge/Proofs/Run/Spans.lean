import FrameworkForge.Proofs.Run.Composition

/-! A range of stages is the stretch of the pipeline from the one bound through the other, and a
selection by names is the sublist of the stages that have these names. A range selected by the
names of its stages is the range again. -/

namespace FrameworkForge.Pipeline

open Checks

variable {p : Pipeline} {start stop : Option String} {selected : List Stage}

/-- The stages from `start` through `stop`. Where a bound is absent, no stage is left out. -/
structure Spans (p : Pipeline) (start stop : Option String) (selected : List Stage) : Prop where
  stretch : ∃ before after, p.stages = before ++ selected ++ after ∧
    (start = none → before = []) ∧ (stop = none → after = [])
  starts : ∀ name, start = some name → (selected.head?.map Stage.name) = some name
  stops : ∀ name, stop = some name → (selected.getLast?.map Stage.name) = some name

theorem position_of_known {name : String} (h : name ∈ p.names) :
    ∃ i stage, p.stages[i]? = some stage ∧ stage.name = name ∧ p.position name = i + 1 := by
  obtain ⟨stage, hstage, rfl⟩ := List.mem_map.mp h
  obtain ⟨i, hi⟩ := List.mem_iff_getElem?.mp hstage
  exact ⟨i, stage, hi, rfl, p.position_getElem hi⟩

theorem spans_of_select (h : p.select start stop = .ok selected) : p.Spans start stop selected := by
  obtain ⟨hknown, hle, rfl⟩ := select_eq_ok_iff.mp h
  have hnonempty := ne_nil_of_select h
  refine ⟨⟨p.stages.take (p.firstOf start - 1), p.stages.drop (p.lastOf stop), ?_, ?_, ?_⟩,
    ?_, ?_⟩
  · have hfront : p.stages.take (p.firstOf start - 1) =
        (p.stages.take (p.lastOf stop)).take (p.firstOf start - 1) := by
      rw [List.take_take, Nat.min_eq_left (by omega)]
    rw [hfront, List.take_append_drop, List.take_append_drop]
  · rintro rfl
    rfl
  · rintro rfl
    exact List.drop_length
  · rintro name rfl
    obtain ⟨i, stage, hi, rfl, hposition⟩ := position_of_known (hknown name (.inl rfl))
    have hfirst : p.firstOf (some stage.name) = i + 1 := hposition
    rw [List.head?_drop, List.getElem?_take_of_lt (by omega), hfirst, Nat.add_sub_cancel, hi]
    rfl
  · rintro name rfl
    obtain ⟨j, stage, hj, rfl, hposition⟩ := position_of_known (hknown name (.inr rfl))
    have hlast : p.lastOf (some stage.name) = j + 1 := hposition
    rw [hlast] at hnonempty hle ⊢
    rw [List.getLast?_drop, List.getLast?_take]
    simp_all

theorem Spans.bounds (h : p.Spans start stop selected) (hne : p.stages ≠ []) :
    ∃ before after, p.stages = before ++ selected ++ after ∧ selected ≠ [] ∧
      (∀ name, start = some name ∨ stop = some name → name ∈ p.names) ∧
      p.firstOf start = before.length + 1 ∧
      p.lastOf stop = before.length + selected.length := by
  obtain ⟨before, after, hstages, hbefore, hafter⟩ := h.stretch
  have hselected : selected ≠ [] := by
    rintro rfl
    have hstart : start = none :=
      Option.eq_none_iff_forall_ne_some.mpr fun name hname => by simpa using h.starts name hname
    have hstop : stop = none :=
      Option.eq_none_iff_forall_ne_some.mpr fun name hname => by simpa using h.stops name hname
    exact hne (by simp [hstages, hbefore hstart, hafter hstop])
  have hplace {k : Nat} {stage : Stage} (hk : selected[k]? = some stage) :
      p.stages[before.length + k]? = some stage := by
    have hlt : k < selected.length := (List.getElem?_eq_some_iff.mp hk).1
    rw [hstages, List.append_assoc, List.getElem?_append_right (by omega),
      Nat.add_sub_cancel_left, List.getElem?_append_left hlt, hk]
  have hlength : 0 < selected.length := List.length_pos_iff.mpr hselected
  have hfirst (name : String) (hname : start = some name) :
      name ∈ p.names ∧ p.position name = before.length + 1 := by
    obtain ⟨stage, hstage, rfl⟩ := Option.map_eq_some_iff.mp (h.starts name hname)
    rw [List.head?_eq_getElem?] at hstage
    have hat := hplace hstage
    exact ⟨List.mem_map_of_mem (List.mem_of_getElem? hat), p.position_getElem hat⟩
  have hlast (name : String) (hname : stop = some name) :
      name ∈ p.names ∧ p.position name = before.length + selected.length := by
    obtain ⟨stage, hstage, rfl⟩ := Option.map_eq_some_iff.mp (h.stops name hname)
    rw [List.getLast?_eq_getElem?] at hstage
    have hat := hplace hstage
    exact ⟨List.mem_map_of_mem (List.mem_of_getElem? hat),
      (p.position_getElem hat).trans (by omega)⟩
  refine ⟨before, after, hstages, hselected, ?_, ?_, ?_⟩
  · exact fun name hname => hname.elim (fun h => (hfirst name h).1) fun h => (hlast name h).1
  · cases start with
    | none => simp [firstOf, hbefore rfl]
    | some name => exact (hfirst name rfl).2
  · cases stop with
    | none => simp [lastOf, hstages, hafter rfl]
    | some name => exact (hlast name rfl).2

theorem select_of_spans (hne : p.stages ≠ []) (h : p.Spans start stop selected) :
    p.select start stop = .ok selected := by
  obtain ⟨before, after, hstages, hselected, hknown, hfirst, hlast⟩ := h.bounds hne
  have hlength : 0 < selected.length := List.length_pos_iff.mpr hselected
  refine select_eq_ok_iff.mpr ⟨hknown, by omega, ?_⟩
  have hfront : before.length + selected.length = (before ++ selected).length := by simp
  rw [hfirst, hlast, hstages, hfront, List.take_left, Nat.add_sub_cancel, List.drop_left]

theorem select_eq_ok_iff_spans :
    p.select start stop = .ok selected ↔ p.stages ≠ [] ∧ p.Spans start stop selected := by
  constructor
  · intro h
    refine ⟨fun hnil => ne_nil_of_select h ?_, spans_of_select h⟩
    exact List.subset_nil.mp (hnil ▸ subset_of_select h)
  · exact fun ⟨hne, h⟩ => select_of_spans hne h

theorem one_le_firstOf (p : Pipeline) (start : Option String) : 1 ≤ p.firstOf start := by
  cases start <;> simp [firstOf, position]

/-- The names of a range are those of the stages whose positions lie between its bounds. -/
theorem mem_names_select_iff (h : p.select start stop = .ok selected) {name : String}
    (hname : name ∈ p.names) : name ∈ selected.map Stage.name ↔
      p.firstOf start ≤ p.position name ∧ p.position name ≤ p.lastOf stop := by
  obtain ⟨-, -, rfl⟩ := select_eq_ok_iff.mp h
  have hfirst := p.one_le_firstOf start
  constructor
  · intro hmem
    obtain ⟨stage, hstage, rfl⟩ := List.mem_map.mp hmem
    obtain ⟨k, hk⟩ := List.mem_iff_getElem?.mp hstage
    rw [List.getElem?_drop, List.getElem?_take] at hk
    split at hk
    · have hposition := p.position_getElem hk
      omega
    · cases hk
  · rintro ⟨hlow, hhigh⟩
    obtain ⟨i, stage, hi, rfl, hposition⟩ := position_of_known hname
    refine List.mem_map_of_mem (List.mem_of_getElem? (i := i - (p.firstOf start - 1)) ?_)
    rw [List.getElem?_drop, List.getElem?_take, if_pos (by omega)]
    rwa [show p.firstOf start - 1 + (i - (p.firstOf start - 1)) = i by omega]

/-- The errors that refuse a range: the first bound that is no stage, or the two bounds together. -/
inductive Refused (p : Pipeline) (start stop : Option String) : Error → Prop
  | unknownStart {name : String} (bound : start = some name) (unknown : name ∉ p.names) :
      Refused p start stop (.unknownStage name p.names)
  | unknownStop {name : String} (known : ∀ name, start = some name → name ∈ p.names)
      (bound : stop = some name) (unknown : name ∉ p.names) :
      Refused p start stop (.unknownStage name p.names)
  | reversed (known : ∀ name, start = some name ∨ stop = some name → name ∈ p.names) :
      Refused p start stop (.reversedRange start stop)

theorem checkStage_eq_error_iff {bound : Option String} {e : Error} :
    p.checkStage bound = .error e ↔
      ∃ name, bound = some name ∧ name ∉ p.names ∧ e = .unknownStage name p.names := by
  cases bound with
  | none => simp [checkStage]
  | some name =>
    by_cases h : name ∈ p.names <;> simp [checkStage, h, eq_comm]

theorem refused_of_select {e : Error} (h : p.select start stop = .error e) :
    p.Refused start stop e := by
  rcases bind_eq_error_iff.mp h with h | ⟨_, hstart, h⟩
  · obtain ⟨name, hname, hunknown, rfl⟩ := checkStage_eq_error_iff.mp h
    exact .unknownStart hname hunknown
  rw [checkStage_eq_ok_iff] at hstart
  rcases bind_eq_error_iff.mp h with h | ⟨_, hstop, h⟩
  · obtain ⟨name, hname, hunknown, rfl⟩ := checkStage_eq_error_iff.mp h
    exact .unknownStop hstart hname hunknown
  rw [checkStage_eq_ok_iff] at hstop
  change (if p.lastOf stop < p.firstOf start then .error (.reversedRange start stop)
    else .ok _ : Except Error (List Stage)) = .error e at h
  split at h
  · cases h
    exact .reversed fun name hname => hname.elim (hstart name) (hstop name)
  · cases h

theorem exists_select_error_iff :
    (∃ e, p.select start stop = .error e) ↔ ¬ p.InOrder start stop ∨ p.stages = [] := by
  rw [exists_error_iff]
  by_cases hnil : p.stages = []
  · simp [select_eq_ok_iff_spans, hnil]
  · simp [exists_select_iff hnil, hnil]

theorem spans_all (p : Pipeline) : p.Spans none none p.stages where
  stretch := ⟨[], [], by simp, fun _ => rfl, fun _ => rfl⟩
  starts _ h := by cases h
  stops _ h := by cases h

theorem select_all_of_ne_nil (hne : p.stages ≠ []) : p.select none none = .ok p.stages :=
  select_eq_ok_iff_spans.mpr ⟨hne, p.spans_all⟩

theorem select_all_of_nil (hnil : p.stages = []) :
    p.select none none = .error (.reversedRange none none) := by
  obtain ⟨e, he⟩ : ∃ e, p.select none none = .error e := exists_select_error_iff.mpr (.inr hnil)
  rcases refused_of_select he with ⟨hbound, -⟩ | ⟨-, hbound, -⟩ | -
  · cases hbound
  · cases hbound
  · exact he

/-- A range is refused when a bound is no stage, when the bounds are out of order, and when there
is no stage at all. Otherwise it is the stretch from bound to bound. Without bounds that is all of
the pipeline, which can be run unless it has no stages. -/
theorem select_spans {σ : Type} (p : Pipeline) (start stop : Option String) (host : Host)
    (processes : Processes σ) (mode : Mode) (s : σ) :
    ((∃ e, p.select start stop = .error e) ↔ ¬ p.InOrder start stop ∨ p.stages = []) ∧
      (∀ e, p.select start stop = .error e → p.Refused start stop e) ∧
      (∀ selected, p.select start stop = .ok selected ↔
        p.stages ≠ [] ∧ p.Spans start stop selected) ∧
      (p.stages ≠ [] → p.select none none = .ok p.stages ∧
        p.run host processes mode none none s =
          .ok (p.runStages host processes mode p.stages s)) ∧
      (p.stages = [] → p.run host processes mode none none s =
        .error (.reversedRange none none)) := by
  refine ⟨exists_select_error_iff, fun e => refused_of_select,
    fun selected => select_eq_ok_iff_spans, fun hne => ?_, fun hnil => ?_⟩
  · have hall := select_all_of_ne_nil hne
    exact ⟨hall, by rw [run, hall]; rfl⟩
  · rw [run, select_all_of_nil hnil]
    rfl

theorem select_spans_from_second :
    let stage (name : String) : Stage := ⟨name, "No tools", []⟩
    let p : Pipeline := ⟨[stage "first", stage "second", stage "third"], by decide⟩
    p.stages ≠ [] ∧ p.select (some "second") none = .ok [stage "second", stage "third"] ∧
      ¬ (∃ e, p.select (some "second") none = .error e) ∧ p.InOrder (some "second") none := by
  intro stage p
  have hspan : p.Spans (some "second") none [stage "second", stage "third"] :=
    ⟨⟨[stage "first"], [], rfl, by simp, by simp⟩, by simp [stage], by simp⟩
  obtain ⟨hrefused, -, hspans, -⟩ :=
    select_spans p (some "second") none .empty .counting .real 0
  have hselected := (hspans _).mpr ⟨by simp [p], hspan⟩
  have hnone : ¬ ∃ e, p.select (some "second") none = .error e := by simp [hselected]
  refine ⟨by simp [p], hselected, hnone, ?_⟩
  by_contra hout
  exact hnone (hrefused.mpr (.inl hout))

/-- Without stages and without bounds no name is unknown and nothing is out of order, and what is
asked for is nothing. It is refused all the same. -/
theorem refused_of_no_stages :
    let p : Pipeline := ⟨[], List.nodup_nil⟩
    p.InOrder none none ∧ p.Spans none none [] ∧
      p.select none none = .error (.reversedRange none none) ∧
      p.run .empty .counting .real none none 0 = .error (.reversedRange none none) := by
  intro p
  have hrefused : p.select none none = .error (.reversedRange none none) := select_all_of_nil rfl
  refine ⟨⟨by simp, by simp⟩, p.spans_all, hrefused, ?_⟩
  rw [run, hrefused]
  rfl

theorem selectNamed_eq (p : Pipeline) (wanted : List String) :
    p.selectNamed wanted =
      if ∀ name ∈ wanted, name ∈ p.names then
        .ok (p.stages.filter fun stage => stage.name ∈ wanted)
      else .error (.unknownStages
        (Text.sorted (wanted.filter fun name => name ∉ p.names).eraseDups) p.names) := by
  rw [selectNamed]
  split <;> simp_all

theorem exists_selectNamed_error_iff {wanted : List String} :
    (∃ e, p.selectNamed wanted = .error e) ↔ ∃ name ∈ wanted, name ∉ p.names := by
  rw [selectNamed_eq]
  split <;> simp_all

/-- The unknown ones of the wanted names, each once and in order. -/
structure ListsUnknown (p : Pipeline) (wanted unknown : List String) : Prop where
  ascending : unknown.Pairwise fun s t => s < t
  mem_iff : ∀ name, name ∈ unknown ↔ name ∈ wanted ∧ name ∉ p.names

theorem listsUnknown_of_selectNamed {wanted : List String} {e : Error}
    (h : p.selectNamed wanted = .error e) :
    ∃ unknown, e = .unknownStages unknown p.names ∧ p.ListsUnknown wanted unknown := by
  rw [selectNamed_eq] at h
  split at h
  · cases h
  · cases h
    exact ⟨_, rfl, Text.pairwise_sorted_eraseDups _, by simp⟩

/-- Whether a name is wanted once or several times, and before which other, does not matter. -/
theorem selectNamed_congr {wanted others : List String}
    (h : ∀ name, name ∈ wanted ↔ name ∈ others) : p.selectNamed wanted = p.selectNamed others := by
  have hunknown : ∀ name, name ∈ wanted.filter (fun name => name ∉ p.names) ↔
      name ∈ others.filter fun name => name ∉ p.names := by
    simp [h]
  rw [selectNamed_eq, selectNamed_eq, Text.sorted_eraseDups_congr hunknown]
  simp only [h]

theorem selectNamed_of_sublist (h : selected.Sublist p.stages) :
    p.selectNamed (selected.map Stage.name) = .ok selected := by
  refine selectNamed_eq_ok_iff.mpr ⟨?_, Stage.filter_name_mem p.distinct h⟩
  exact fun name hname => (h.map Stage.name).subset hname

theorem sublist_of_select (h : p.select start stop = .ok selected) : selected.Sublist p.stages := by
  obtain ⟨before, after, hstages, -⟩ := (spans_of_select h).stretch
  rw [hstages]
  exact (List.sublist_append_right _ _).trans (List.sublist_append_left _ _)

/-- The stages with the wanted names, each once and in the order of the pipeline. -/
structure Chosen (p : Pipeline) (wanted : List String) (selected : List Stage) : Prop where
  inOrder : selected.Sublist p.stages
  distinct : (selected.map Stage.name).Nodup
  mem_iff : ∀ stage, stage ∈ selected ↔ stage ∈ p.stages ∧ stage.name ∈ wanted

theorem chosen_of_selectNamed {wanted : List String} (h : p.selectNamed wanted = .ok selected) :
    p.Chosen wanted selected := by
  obtain ⟨-, rfl⟩ := selectNamed_eq_ok_iff.mp h
  have hsub : (p.stages.filter fun stage => stage.name ∈ wanted).Sublist p.stages :=
    List.filter_sublist
  exact ⟨hsub, p.distinct.sublist (hsub.map Stage.name), by simp⟩

/-- A selection by names is refused exactly for names that are no stages, which the error lists.
It depends on nothing but the set of the names, and a selection of the names that it gives back
gives it again. The same holds for the names of a range. -/
theorem selectNamed_chooses (p : Pipeline) (wanted : List String) :
    ((∃ e, p.selectNamed wanted = .error e) ↔ ∃ name ∈ wanted, name ∉ p.names) ∧
      (∀ e, p.selectNamed wanted = .error e → ∃ unknown, e = .unknownStages unknown p.names ∧
        e.message = s!"Unknown stage: {Error.commas unknown}. Stages: {Error.commas p.names}" ∧
        p.ListsUnknown wanted unknown) ∧
      (∀ selected, p.selectNamed wanted = .ok selected → p.Chosen wanted selected ∧
        p.selectNamed (selected.map Stage.name) = .ok selected) ∧
      (∀ others, (∀ name, name ∈ others ↔ name ∈ wanted) →
        p.selectNamed others = p.selectNamed wanted) ∧
      (∀ start stop selected, p.select start stop = .ok selected →
        wanted.Perm (selected.map Stage.name) → p.selectNamed wanted = .ok selected) := by
  refine ⟨exists_selectNamed_error_iff, ?_, ?_, ?_, ?_⟩
  · intro e he
    obtain ⟨unknown, rfl, hlists⟩ := listsUnknown_of_selectNamed he
    exact ⟨unknown, rfl, rfl, hlists⟩
  · intro selected h
    have hchosen := chosen_of_selectNamed h
    exact ⟨hchosen, selectNamed_of_sublist hchosen.inOrder⟩
  · exact fun others h => selectNamed_congr h
  · intro start stop selected h hperm
    rw [selectNamed_congr fun name => hperm.mem_iff]
    exact selectNamed_of_sublist (sublist_of_select h)

/-- Three stages, of which two are wanted, the last one first and twice. -/
theorem selectNamed_chooses_two :
    let stage (name : String) : Stage := ⟨name, "No tools", []⟩
    let p : Pipeline := ⟨[stage "first", stage "second", stage "third"], by decide⟩
    let wanted := ["third", "first", "third"]
    (∀ name, name ∈ ["first", "third"] ↔ name ∈ wanted) ∧
      p.selectNamed ["first", "third"] = p.selectNamed wanted ∧
      p.selectNamed wanted = .ok [stage "first", stage "third"] ∧
      p.Chosen wanted [stage "first", stage "third"] := by
  intro stage p wanted
  have hsame : ∀ name, name ∈ ["first", "third"] ↔ name ∈ wanted := by
    simp only [wanted, List.mem_cons, List.not_mem_nil, or_false]
    tauto
  obtain ⟨-, -, hchosen, hnames, -⟩ := p.selectNamed_chooses wanted
  have hselected : p.selectNamed wanted = .ok [stage "first", stage "third"] := by rfl
  exact ⟨hsame, hnames _ hsame, hselected, (hchosen _ hselected).1⟩

end FrameworkForge.Pipeline

import FrameworkForge.Proofs.Run.Attempt
import Mathlib.Data.List.Forall2

/-! Real runs of a pipeline. The tasks of the selected stages are attempted in order up to the
first failure; headers, complaints and the exit code tell how far the run came. -/

namespace FrameworkForge

variable {σ : Type}

namespace Verdict

def ofFailure : Option (Except Interruption TaskResult) → Verdict
  | none => complete
  | some (.ok _) => stopped
  | some (.error cause) => interrupted cause

end Verdict

namespace Pipeline

/-- The stages come from one of the two ways to select. -/
def Offers (p : Pipeline) (selected : List Stage) : Prop :=
  (∃ start stop, p.select start stop = .ok selected) ∨
    ∃ wanted, p.selectNamed wanted = .ok selected

theorem subset_of_select {p : Pipeline} {start stop : Option String} {selected : List Stage}
    (h : p.select start stop = .ok selected) : selected ⊆ p.stages := by
  simp only [select, bind, Except.bind] at h
  split at h
  · cases h
  split at h
  · cases h
  split at h
  · cases h
  · cases h
    exact fun stage hstage => List.mem_of_mem_take (List.mem_of_mem_drop hstage)

theorem subset_of_selectNamed {p : Pipeline} {wanted : List String} {selected : List Stage}
    (h : p.selectNamed wanted = .ok selected) : selected ⊆ p.stages := by
  rw [selectNamed] at h
  split at h
  · cases h
    exact List.filter_subset_self _
  · cases h

theorem Offers.subset {p : Pipeline} {selected : List Stage} (h : p.Offers selected) :
    selected ⊆ p.stages := by
  rcases h with ⟨start, stop, h⟩ | ⟨wanted, h⟩
  · exact subset_of_select h
  · exact subset_of_selectNamed h

/-- The line announces the stage by its place among all stages of the pipeline. -/
def Announces (p : Pipeline) (stage : Stage) (line : String) : Prop :=
  ∃ i, p.stages[i]? = some stage ∧
    line = s!"🔨 [{i + 1}/{p.stages.length}] {stage.name}: {stage.description}"

theorem position_getElem (p : Pipeline) {i : Nat} {stage : Stage}
    (h : p.stages[i]? = some stage) : p.position stage.name = i + 1 := by
  obtain ⟨hi, rfl⟩ := List.getElem?_eq_some_iff.mp h
  have hidx := p.distinct.idxOf_getElem i (by simpa using hi)
  simpa [position, names] using hidx

theorem announces_header {p : Pipeline} {stage : Stage} (h : stage ∈ p.stages) :
    p.Announces stage (stage.header p) := by
  obtain ⟨i, hi⟩ := List.mem_iff_getElem?.mp h
  exact ⟨i, hi, by rw [Stage.header, p.position_getElem hi]⟩

structure Completed (p : Pipeline) (stages : List Stage) (made : List Attempt)
    (ran : Ran σ Verdict) : Prop where
  tasks : made.map Attempt.task = stages.flatMap Stage.tasks
  passed : ∀ a ∈ made, a.Passed
  value : ran.value = .complete
  out : List.Forall₂ p.Announces stages ran.trace.out
  complaints : ran.trace.complaints = []

/-- The run ended inside the given stage, at the attempt `failed`. It complains if that has a result,
and is interrupted if it has none. -/
structure StoppedAt (p : Pipeline) (stages : List Stage) (made : List Attempt)
    (ran : Ran σ Verdict) (before : List Stage) (stage : Stage) (passed : List Attempt)
    (failed : Attempt) : Prop where
  reached : before ++ [stage] <+: stages
  attempts : made = passed ++ [failed]
  inStage : ∃ done, made.map Attempt.task = before.flatMap Stage.tasks ++ done ∧
    done <+: stage.tasks ∧ done ≠ []
  allPassed : ∀ a ∈ passed, a.Passed
  notPassed : ¬ failed.Passed
  out : List.Forall₂ p.Announces (before ++ [stage]) ran.trace.out
  onFailure : ∀ r, failed.result = .ok r → ran.value = .stopped ∧ ran.trace.complaints =
    [s!"❌ {r.text}", s!"   Pipeline stopped at stage {stage.name}"]
  onInterruption : ∀ cause, failed.result = .error cause →
    ran.value = .interrupted cause ∧ ran.trace.complaints = []

structure Executed (p : Pipeline) (host : Host) (processes : Processes σ) (stages : List Stage)
    (s : σ) (made : List Attempt) (ran : Ran σ Verdict) : Prop where
  chain : Chain host processes s made ran.state
  spawns : ran.trace.spawns = made.map (Attempt.spawn host)
  ending : Completed p stages made ran ∨
    ∃ before stage passed failed, StoppedAt p stages made ran before stage passed failed

variable {p : Pipeline} {host : Host} {processes : Processes σ} {s : σ}

/-- A stage that ends in a failure ends the run, as a stage in front of any others. -/
theorem runReal_cons_of_failure {stage : Stage} {r : Except Interruption TaskResult}
    (hr : failure? (Task.runAll host processes stage.tasks s).value = some r)
    (stages : List Stage) :
    p.runReal host processes (stage :: stages) s = p.runStage host processes stage s := by
  cases r <;> simp [runReal, runStage, hr]

theorem stoppedAt_runStage {stage : Stage} {passed : List Attempt} {failed : Attempt}
    (hstage : stage ∈ p.stages) (stages : List Stage)
    (h : Task.Attempted host processes s stage.tasks (passed ++ [failed])
      (Task.runAll host processes stage.tasks s))
    (hpassed : ∀ a ∈ passed, a.Passed) (hfailed : ¬ failed.Passed)
    (htasks : (passed ++ [failed]).map Attempt.task <+: stage.tasks)
    (hr : failure? (Task.runAll host processes stage.tasks s).value = some failed.result) :
    StoppedAt p (stage :: stages) (passed ++ [failed]) (p.runStage host processes stage s) []
      stage passed failed where
  reached := by simp
  attempts := rfl
  inStage := ⟨_, by simp, htasks, by simp⟩
  allPassed := hpassed
  notPassed := hfailed
  out := by
    have hheader := announces_header hstage
    cases hresult : failed.result <;> simpa [runStage, hr, hresult, h.out] using hheader
  onFailure := by
    intro r hresult
    simp [runStage, hr, hresult, h.complaints, Stage.failureLines]
  onInterruption := by
    intro cause hresult
    simp [runStage, hr, hresult, h.complaints]

theorem Executed.of_failure {stage : Stage} {made : List Attempt}
    {r : Except Interruption TaskResult} (hstage : stage ∈ p.stages) (stages : List Stage)
    (h : Task.Attempted host processes s stage.tasks made
      (Task.runAll host processes stage.tasks s))
    (hr : failure? (Task.runAll host processes stage.tasks s).value = some r) :
    Executed p host processes (stage :: stages) s made
      (p.runReal host processes (stage :: stages) s) := by
  have hfast := h.failFast
  rw [hr] at hfast
  obtain ⟨passed, failed, rfl, htasks, hpassed, hfailed, rfl⟩ := hfast
  have hran : (p.runStage host processes stage s).state =
        (Task.runAll host processes stage.tasks s).state ∧
      (p.runStage host processes stage s).trace.spawns =
        (Task.runAll host processes stage.tasks s).trace.spawns := by
    cases hresult : failed.result <;> simp [runStage, hr, hresult]
  rw [runReal_cons_of_failure hr]
  refine ⟨hran.1 ▸ h.chain, hran.2.trans h.spawns, .inr ⟨[], stage, passed, failed, ?_⟩⟩
  exact stoppedAt_runStage hstage stages h hpassed hfailed htasks hr

theorem Executed.of_success {stage : Stage} {stages : List Stage} {first made : List Attempt}
    (hstage : stage ∈ p.stages)
    (h : Task.Attempted host processes s stage.tasks first
      (Task.runAll host processes stage.tasks s))
    (hnone : failure? (Task.runAll host processes stage.tasks s).value = none)
    (hlater : Executed p host processes stages (Task.runAll host processes stage.tasks s).state
      made (p.runReal host processes stages (Task.runAll host processes stage.tasks s).state)) :
    Executed p host processes (stage :: stages) s (first ++ made)
      (p.runReal host processes (stage :: stages) s) := by
  have hfast := h.failFast
  rw [hnone] at hfast
  obtain ⟨htasks, hpassed⟩ := hfast
  have hheader := announces_header hstage
  have hquiet : (stage.completion).complaints = [] := rfl
  simp only [runReal, runStage, hnone]
  refine ⟨h.chain.append hlater.chain,
    by simp [h.spawns, hlater.spawns, Stage.completion, Trace.noticed], ?_⟩
  rcases hlater.ending with hdone | ⟨before, last, passed, failed, hstop⟩
  · left
    exact {
      tasks := by simp [htasks, hdone.tasks]
      passed := fun a ha => (List.mem_append.mp ha).elim (hpassed a) (hdone.passed a)
      value := hdone.value
      out := by
        simpa [h.out, Stage.completion, Trace.noticed] using ⟨hheader, hdone.out⟩
      complaints := by simp [h.complaints, hdone.complaints, hquiet] }
  · right
    obtain ⟨done, htask, hbegins, hne⟩ := hstop.inStage
    refine ⟨stage :: before, last, first ++ passed, failed, ?_⟩
    exact {
      reached := by simpa using hstop.reached
      attempts := by simp [hstop.attempts]
      inStage := ⟨done, by simp [htasks, htask], hbegins, hne⟩
      allPassed := fun a ha => (List.mem_append.mp ha).elim (hpassed a) (hstop.allPassed a)
      notPassed := hstop.notPassed
      out := by
        simpa [h.out, Stage.completion, Trace.noticed] using ⟨hheader, hstop.out⟩
      onFailure := fun r hr => by simpa [h.complaints, hquiet] using hstop.onFailure r hr
      onInterruption := fun cause hcause => by
        simpa [h.complaints, hquiet] using hstop.onInterruption cause hcause }

variable (p host processes) in
theorem exists_executed_runReal (stages : List Stage) (hsub : stages ⊆ p.stages) (s : σ) :
    ∃ made, Executed p host processes stages s made (p.runReal host processes stages s) := by
  induction stages generalizing s with
  | nil => exact ⟨[], .nil s, rfl, .inl ⟨rfl, by simp, rfl, .nil, rfl⟩⟩
  | cons stage stages ih =>
    have hstage : stage ∈ p.stages := hsub List.mem_cons_self
    obtain ⟨first, hfirst⟩ := Task.exists_attempted_runAll host processes stage.tasks s
    cases hr : failure? (Task.runAll host processes stage.tasks s).value with
    | some r => exact ⟨first, .of_failure hstage stages hfirst hr⟩
    | none =>
      obtain ⟨made, hlater⟩ := ih (List.subset_of_cons_subset hsub)
        (Task.runAll host processes stage.tasks s).state
      exact ⟨first ++ made, .of_success hstage hfirst hr hlater⟩

section

variable {stages before : List Stage} {stage : Stage} {made passed : List Attempt}
  {failed : Attempt} {ran : Ran σ Verdict}

/-- The result of the last attempt is the end of the run, if the attempt did not pass. -/
theorem StoppedAt.value (h : StoppedAt p stages made ran before stage passed failed) :
    ran.value = .ofFailure (some failed.result) := by
  cases hr : failed.result with
  | ok r => exact (h.onFailure r hr).1
  | error cause => exact (h.onInterruption cause hr).1

theorem StoppedAt.code (h : StoppedAt p stages made ran before stage passed failed) :
    ran.value.code = failed.result.map fun _ => 1 := by
  rw [h.value]
  cases failed.result <;> rfl

theorem StoppedAt.ok_eq_false (h : StoppedAt p stages made ran before stage passed failed)
    {r : TaskResult} (hr : failed.result = .ok r) : r.ok = false :=
  Bool.eq_false_iff.mpr (mt (Attempt.passed_iff_of_result hr).mpr h.notPassed)

/-- The stages apart, a run stops at the first attempt among all tasks that does not pass. -/
theorem Executed.failFast (h : Executed p host processes stages s made ran) :
    ∃ r, ran.value = .ofFailure r ∧ FailFast (stages.flatMap Stage.tasks) made r := by
  rcases h.ending with hdone | ⟨before, stage, passed, failed, hstop⟩
  · exact ⟨none, hdone.value, hdone.tasks, hdone.passed⟩
  · obtain ⟨done, htasks, ⟨rest, hrest⟩, -⟩ := hstop.inStage
    obtain ⟨after, hafter⟩ := hstop.reached
    have hbegins : made.map Attempt.task <+: stages.flatMap Stage.tasks := by
      refine ⟨rest ++ after.flatMap Stage.tasks, ?_⟩
      simp [htasks, ← hafter, ← hrest]
    exact ⟨some failed.result, hstop.value, passed, failed, hstop.attempts, hbegins,
      hstop.allPassed, hstop.notPassed, rfl⟩

theorem Executed.prefix_tasks (h : Executed p host processes stages s made ran) :
    made.map Attempt.task <+: stages.flatMap Stage.tasks := by
  obtain ⟨_, -, hfast⟩ := h.failFast
  exact hfast.prefix_tasks

/-- The code of a run is that of its last attempt: zero as long as all attempts pass, one if the
last of them failed, and none if it was interrupted. -/
theorem Executed.code_cases (h : Executed p host processes stages s made ran) :
    ran.value.code = .ok 0 ∧ (∀ a ∈ made, a.Passed) ∨
      ∃ passed failed, made = passed ++ [failed] ∧ (∀ a ∈ passed, a.Passed) ∧
        ((∃ r, failed.result = .ok r ∧ r.ok = false ∧ ran.value.code = .ok 1) ∨
          ∃ cause, failed.result = .error cause ∧ ran.value.code = .error cause) := by
  rcases h.ending with hdone | ⟨before, stage, passed, failed, hstop⟩
  · exact .inl ⟨congrArg Verdict.code hdone.value, hdone.passed⟩
  · refine .inr ⟨passed, failed, hstop.attempts, hstop.allPassed, ?_⟩
    cases hr : failed.result with
    | ok r => exact .inl ⟨r, rfl, hstop.ok_eq_false hr, by rw [hstop.code, hr, Except.map]⟩
    | error cause => exact .inr ⟨cause, rfl, by rw [hstop.code, hr, Except.map]⟩

theorem Executed.code_eq_zero_iff (h : Executed p host processes stages s made ran) :
    ran.value.code = .ok 0 ↔ ∀ a ∈ made, a.Passed := by
  rcases h.code_cases with ⟨hcode, hpassed⟩ | ⟨passed, failed, rfl, -, hend⟩
  · exact iff_of_true hcode hpassed
  · have hmem : failed ∈ passed ++ [failed] := by simp
    rcases hend with ⟨r, hr, hok, hcode⟩ | ⟨cause, hr, hcode⟩
    · refine iff_of_false (by simp [hcode]) fun hall => ?_
      simp [(Attempt.passed_iff_of_result hr).mp (hall failed hmem)] at hok
    · exact iff_of_false (by simp [hcode]) fun hall =>
        Attempt.not_passed_of_error hr (hall failed hmem)

theorem Executed.code_eq_one_iff (h : Executed p host processes stages s made ran) :
    ran.value.code = .ok 1 ↔ ∃ a ∈ made, ∃ r, a.result = .ok r ∧ r.ok = false := by
  have hnot {a : Attempt} (ha : a.Passed) : ¬ ∃ r, a.result = .ok r ∧ r.ok = false := by
    rintro ⟨r, hr, hok⟩
    simp [(Attempt.passed_iff_of_result hr).mp ha] at hok
  rcases h.code_cases with ⟨hcode, hpassed⟩ | ⟨passed, failed, rfl, hpassed, hend⟩
  · exact iff_of_false (by simp [hcode]) fun ⟨a, ha, hfailed⟩ => hnot (hpassed a ha) hfailed
  · rcases hend with ⟨r, hr, hok, hcode⟩ | ⟨cause, hr, hcode⟩
    · exact iff_of_true hcode ⟨failed, by simp, r, hr, hok⟩
    · refine iff_of_false (by simp [hcode]) ?_
      rintro ⟨a, ha, hfailed⟩
      rcases List.mem_append.mp ha with ha | ha
      · exact hnot (hpassed a ha) hfailed
      · obtain rfl := List.mem_singleton.mp ha
        simp [hr] at hfailed

theorem Executed.code_eq_error_iff (h : Executed p host processes stages s made ran)
    {cause : Interruption} :
    ran.value.code = .error cause ↔ ∃ a ∈ made, a.Interrupted cause := by
  simp only [← Attempt.result_eq_error_iff]
  rcases h.code_cases with ⟨hcode, hpassed⟩ | ⟨passed, failed, rfl, hpassed, hend⟩
  · exact iff_of_false (by simp [hcode]) fun ⟨a, ha, hcause⟩ =>
      Attempt.not_passed_of_error hcause (hpassed a ha)
  · have hlast : (∃ a ∈ passed ++ [failed], a.result = .error cause) ↔
        failed.result = .error cause := by
      constructor
      · rintro ⟨a, ha, hcause⟩
        rcases List.mem_append.mp ha with ha | ha
        · exact absurd (hpassed a ha) (Attempt.not_passed_of_error hcause)
        · rwa [List.mem_singleton.mp ha] at hcause
      · exact fun hcause => ⟨failed, by simp, hcause⟩
    rw [hlast]
    rcases hend with ⟨r, hr, -, hcode⟩ | ⟨_, hr, hcode⟩ <;> simp [hr, hcode]

end

end Pipeline

end FrameworkForge

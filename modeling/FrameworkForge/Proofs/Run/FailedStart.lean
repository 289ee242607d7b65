import FrameworkForge.Proofs.Run.Flat

/-! Processes that cannot be started. A run stops at them, unless it accepts the very code that
stands for the failed start. -/

namespace FrameworkForge

variable {σ : Type} {host : Host}

namespace Task

variable {t : Task} {allowed : List Int} {sight : Sight} {fault : StartFault}

/-- The run accepts the code that stands for the failed start. -/
def Excuses (t : Task) (allowed : List Int) (sight : Sight) (fault : StartFault) : Prop :=
  ∃ code reason, t.startFailure sight fault = .ok (code, reason) ∧
    (code ∈ t.tolerated ∨ code ∈ allowed)

/-- A failed start ends without a result, or with one that is a success if the run accepts the code
that stands for it. -/
theorem resultOf_failed_cases (t : Task) (allowed : List Int) (sight : Sight)
    (fault : StartFault) :
    (∃ text, t.Unseen sight text ∧ ¬ t.Excuses allowed sight fault ∧
      t.resultOf allowed sight (.failed fault) = .error (.unseen text)) ∨
    (∀ text, ¬ t.Unseen sight text) ∧ ∃ r, t.resultOf allowed sight (.failed fault) = .ok r ∧
      (r.ok = true ↔ t.Excuses allowed sight fault) := by
  rcases t.startFailure_cases sight fault with
    ⟨text, hunseen, hfault⟩ | ⟨hseen, code, reason, hfault, hcode, -⟩
  · refine .inl ⟨text, hunseen, by simp [Excuses, hfault], ?_⟩
    exact resultOf_eq_error_iff.mpr (.unseen hunseen)
  · have hne : code ≠ 0 := by omega
    refine .inr ⟨hseen, _, resultOf_failed hfault, ?_⟩
    simp [Excuses, hfault, accepting_eq_true_iff, mem_accepted_iff, hne]

theorem exists_ok_failed_iff :
    (∃ r, t.resultOf allowed sight (.failed fault) = .ok r ∧ r.ok = true) ↔
      t.Excuses allowed sight fault := by
  rcases t.resultOf_failed_cases allowed sight fault with ⟨_, -, hnot, hr⟩ | ⟨-, r, hr, hok⟩
  · exact iff_of_false (by simp [hr]) hnot
  · simp [hr, hok]

theorem exists_not_ok_failed_iff :
    (∃ r, t.resultOf allowed sight (.failed fault) = .ok r ∧ r.ok = false) ↔
      ¬ t.Excuses allowed sight fault ∧ ∀ text, ¬ t.Unseen sight text := by
  rcases t.resultOf_failed_cases allowed sight fault with
    ⟨text, hunseen, -, hr⟩ | ⟨hseen, r, hr, hok⟩
  · exact iff_of_false (by simp [hr]) fun h => h.2 text hunseen
  · simp [hr, ← hok, hseen]

end Task

theorem Attempt.passed_iff_of_failed {a : Attempt} {fault : StartFault}
    (h : a.outcome = .failed fault) : a.Passed ↔ a.task.Excuses [] a.sight fault := by
  rw [Attempt.Passed, Attempt.result, h, Task.exists_ok_failed_iff]

namespace FailFast

variable {tasks : List Task} {r : Option (Except Interruption TaskResult)}

theorem eq_none_of_nil (h : FailFast tasks [] r) : r = none := by
  obtain rfl := h.eq_nil_iff.mp rfl
  exact h.of_nil.2

/-- An attempt that did not pass is the last one. Of those that passed one is the last only where
all of them passed. -/
theorem at_attempt {before after : List Attempt} {a : Attempt}
    (h : FailFast tasks (before ++ a :: after) r) :
    (¬ a.Passed → after = [] ∧ r = some a.result) ∧ (a.Passed → after = [] → r = none) := by
  induction before generalizing tasks with
  | nil =>
    cases tasks with
    | nil => simpa using h.of_nil.1
    | cons t tasks =>
      obtain ⟨_, _, hmade, -, hrest⟩ := h.of_cons
      obtain ⟨rfl, rfl⟩ := List.cons.inj hmade
      rcases hrest with ⟨hpassed, hfast⟩ | ⟨hfailed, hnil, hr⟩
      · exact ⟨fun hfailed => absurd hpassed hfailed, fun _ hnil => (hnil ▸ hfast).eq_none_of_nil⟩
      · exact ⟨fun _ => ⟨hnil, hr⟩, fun hpassed => absurd hpassed hfailed⟩
  | cons first before ih =>
    cases tasks with
    | nil => simpa using h.of_nil.1
    | cons t tasks =>
      obtain ⟨_, _, hmade, -, hrest⟩ := h.of_cons
      obtain ⟨rfl, rfl⟩ := List.cons.inj hmade
      rcases hrest with ⟨-, hfast⟩ | ⟨-, hnil, -⟩
      · exact ih hfast
      · simp at hnil

end FailFast

namespace Pipeline

variable {p : Pipeline} {processes : Processes σ} {s : σ} {selected : List Stage}

theorem Executed.stoppedAt_of_not_passed {before after : List Attempt} {a : Attempt}
    {ran : Ran σ Verdict} (h : Executed p host processes selected s (before ++ a :: after) ran)
    (hfailed : ¬ a.Passed) : after = [] ∧
      ∃ earlier stage, StoppedAt p selected (before ++ [a]) ran earlier stage before a := by
  obtain ⟨r, -, hfast⟩ := h.failFast
  obtain ⟨rfl, -⟩ := hfast.at_attempt.1 hfailed
  rcases h.ending with hdone | ⟨earlier, stage, passed, failed, hstop⟩
  · exact absurd (hdone.passed a (by simp)) hfailed
  · obtain ⟨rfl, hsame⟩ := List.append_inj' hstop.attempts rfl
    obtain ⟨rfl, -⟩ := List.cons.inj hsame
    exact ⟨rfl, earlier, stage, hstop⟩

theorem Executed.tasks_of_last_passed {before : List Attempt} {a : Attempt} {ran : Ran σ Verdict}
    (h : Executed p host processes selected s (before ++ [a]) ran) (hpassed : a.Passed) :
    (before ++ [a]).map Attempt.task = selected.flatMap Stage.tasks := by
  obtain ⟨r, -, hfast⟩ := h.failFast
  obtain rfl := hfast.at_attempt.2 hpassed rfl
  exact hfast.1

/-- A failed start is a success exactly if the run accepts the code that stands for it, and
otherwise a failure, or no result where the directory cannot be looked at. A run of tasks and one of
stages stop at a start that is no success; otherwise both go on as if the process had come to its
end. -/
theorem stops_at_unexcused_start (p : Pipeline) (host : Host) (processes : Processes σ)
    {selected : List Stage} (hsub : selected ⊆ p.stages) (s : σ) :
    let flat := Task.runAll host processes (selected.flatMap Stage.tasks) s
    let staged := p.runStages host processes .real selected s
    (∀ (t : Task) allowed state fault,
      let sight := t.sight processes (processes.start state (t.spawn host)).2
      let ran := t.run host processes allowed state
      (processes.start state (t.spawn host)).1 = .failed fault →
      ((∃ r, ran.value = .ok r ∧ r.ok = true) ↔ t.Excuses allowed sight fault) ∧
      ((∃ r, ran.value = .ok r ∧ r.ok = false) ↔
        ¬ t.Excuses allowed sight fault ∧ ∀ text, ¬ t.Unseen sight text)) ∧
    ∃ made, Executed p host processes selected s made staged ∧
      flat.trace.spawns = made.map (Attempt.spawn host) ∧
      ∀ before a after fault, made = before ++ a :: after → a.outcome = .failed fault →
        (¬ a.task.Excuses [] a.sight fault → after = [] ∧ flat.value = a.result.map some ∧
          ∃ earlier stage, StoppedAt p selected made staged earlier stage before a) ∧
        (a.task.Excuses [] a.sight fault → a.Passed ∧
          (after = [] → made.map Attempt.task = selected.flatMap Stage.tasks)) := by
  intro flat staged
  constructor
  · intro t allowed state fault sight ran h
    have hvalue : ran.value = t.resultOf allowed sight (.failed fault) := by
      rw [← h]
      rfl
    rw [hvalue]
    exact ⟨Task.exists_ok_failed_iff, Task.exists_not_ok_failed_iff⟩
  obtain ⟨made, h⟩ := exists_executed_runReal p host processes selected hsub s
  obtain ⟨r, -, hfast⟩ := h.failFast
  obtain ⟨hvalue, -, hspawns⟩ := Task.runAll_of_failFast h.chain hfast
  refine ⟨made, h, hspawns, ?_⟩
  rintro before a after fault rfl hfault
  rw [← Attempt.passed_iff_of_failed hfault]
  constructor
  · intro hfailed
    obtain ⟨rfl, hstop⟩ := h.stoppedAt_of_not_passed hfailed
    exact ⟨rfl, hvalue.trans (lastResult_concat before a), hstop⟩
  · intro hpassed
    refine ⟨hpassed, ?_⟩
    rintro rfl
    exact h.tasks_of_last_passed hpassed

def toolless : Processes Unit where
  start _ _ := (.failed (.system 2 "No such file or directory"), ())
  look _ _ := .directory

/-- Two tasks, of which the first accepts the code of a tool that is not found. -/
theorem stops_at_unexcused_start_toolless :
    let tool (codes : List Int) : Task :=
      { executable := ⟨Path.parse "/bin/tool", by decide⟩, arguments := [], tolerated := codes }
    let p : Pipeline := ⟨[⟨"only", "Two tools", [tool [127], tool [1]]⟩], by decide⟩
    let fault : StartFault := .system 2 "No such file or directory"
    let flat := Task.runAll .empty toolless (p.stages.flatMap Stage.tasks) ()
    let staged := p.runStages .empty toolless .real p.stages ()
    p.stages ⊆ p.stages ∧
    (toolless.start () ((tool [1]).spawn .empty)).1 = .failed fault ∧
    (∃ r, ((tool [1]).run .empty toolless [] ()).value = .ok r ∧ r.ok = false) ∧
    ∃ first second, Executed p .empty toolless p.stages () [first, second] staged ∧
      first.outcome = .failed fault ∧ first.task.Excuses [] first.sight fault ∧ first.Passed ∧
      second.outcome = .failed fault ∧ ¬ second.task.Excuses [] second.sight fault ∧
      flat.value = second.result.map some ∧
      ∃ earlier stage, StoppedAt p p.stages [first, second] staged earlier stage [first]
        second := by
  intro tool p fault flat staged
  have hsub : p.stages ⊆ p.stages := List.Subset.refl _
  obtain ⟨hfatal, made, h, -, hmade⟩ := stops_at_unexcused_start p .empty toolless hsub ()
  have hexcuses (codes : List Int) (sight : Sight) :
      (tool codes).Excuses [] sight fault ↔ 127 ∈ codes := by
    have hfailure : (tool codes).startFailure sight fault = .ok (127, "executable not found") := rfl
    simp [Task.Excuses, hfailure, tool]
  have hstart : (toolless.start () ((tool [1]).spawn .empty)).1 = .failed fault := rfl
  have hlength : made.length = 2 := by
    have hspawns : staged.trace.spawns.length = 2 := rfl
    rwa [h.spawns, List.length_map] at hspawns
  obtain ⟨first, second, rfl⟩ := List.length_eq_two.mp hlength
  have htasks : first.task = tool [127] ∧ second.task = tool [1] := by
    simpa [p] using h.prefix_tasks
  obtain ⟨hfirst, hsecond⟩ : first.outcome = .failed fault ∧ second.outcome = .failed fault := by
    cases h.chain with
    | cons start _ tail =>
      cases tail with
      | cons next _ _ => exact ⟨(Prod.mk.inj start).1.symm, (Prod.mk.inj next).1.symm⟩
  have hexcused : first.task.Excuses [] first.sight fault := by
    rw [htasks.1, hexcuses]
    decide
  have hunexcused : ¬ second.task.Excuses [] second.sight fault := by
    rw [htasks.2, hexcuses]
    decide
  have hfailed : ∃ r, ((tool [1]).run .empty toolless [] ()).value = .ok r ∧ r.ok = false := by
    refine (hfatal (tool [1]) [] () fault hstart).2.mpr ⟨by rw [hexcuses]; decide, ?_⟩
    exact fun _ hunseen => hunseen.1 rfl
  refine ⟨hsub, hstart, hfailed, first, second, h, hfirst, hexcused, ?_, hsecond, hunexcused, ?_⟩
  · exact ((hmade [] first [second] fault rfl hfirst).2 hexcused).1
  · exact ((hmade [first] second [] fault rfl hsecond).1 hunexcused).2

/-- No process is started, and the run is complete: the tasks accept the code of a tool that is not
found. -/
theorem not_stopped_at_excused_start :
    let tool : Task :=
      { executable := ⟨Path.parse "/bin/tool", by decide⟩, arguments := [], tolerated := [127] }
    let p : Pipeline := ⟨[⟨"only", "Two tools", [tool, tool]⟩], by decide⟩
    let flat := Task.runAll .empty toolless [tool, tool] ()
    let staged := p.runStages .empty toolless .real p.stages ()
    (∀ spawn, ∃ fault, (toolless.start () spawn).1 = .failed fault) ∧
      (∃ r, (tool.run .empty toolless [] ()).value = .ok r ∧ r.ok = true) ∧
      (∃ r, flat.value = .ok (some r) ∧ r.ok = true) ∧ flat.trace.spawns.length = 2 ∧
      staged.value.code = .ok 0 := by
  intro tool p flat staged
  exact ⟨fun _ => ⟨_, rfl⟩, ⟨_, rfl, rfl⟩, ⟨_, rfl, rfl⟩, rfl, rfl⟩

end Pipeline

end FrameworkForge

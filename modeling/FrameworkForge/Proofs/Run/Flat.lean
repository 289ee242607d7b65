import FrameworkForge.Proofs.Run.FailFast

/-! A run of tasks in one go, beside the run of the stages that hold them. The attempts of the one
are those of the other, and the result of the last attempt says how both of them ended. -/

namespace FrameworkForge

variable {σ : Type} {host : Host} {processes : Processes σ} {s last : σ}

theorem Chain.of_cons {a : Attempt} {rest : List Attempt}
    (h : Chain host processes s (a :: rest) last) : a.task.attempt host processes s = a ∧
      Chain host processes (a.task.run host processes [] s).state rest last := by
  cases h with
  | @cons _ next _ _ _ start look tail =>
    have hstart : processes.start s (a.task.spawn host) = (a.outcome, next) := start
    have hstate : (a.task.run host processes [] s).state = next := congrArg Prod.snd hstart
    exact ⟨by rw [Task.attempt, hstart, look], hstate ▸ tail⟩

/-- The result of the last attempt, if one was made. -/
def lastResult (made : List Attempt) : Except Interruption (Option TaskResult) :=
  match made.getLast? with
  | none => .ok none
  | some a => a.result.map some

theorem lastResult_cons {a : Attempt} {r : TaskResult} (h : a.result = .ok r)
    (rest : List Attempt) :
    lastResult (a :: rest) = (lastResult rest).map fun last => some (last.getD r) := by
  rw [lastResult, lastResult, List.getLast?_cons]
  cases rest.getLast? with
  | none => simp [h, Except.map]
  | some last => cases hlast : last.result <;> simp [hlast, Except.map]

theorem lastResult_concat (made : List Attempt) (a : Attempt) :
    lastResult (made ++ [a]) = a.result.map some := by
  rw [lastResult, List.getLast?_concat]

/-- The attempts that are made on tasks are all there is to a run of them. -/
theorem Task.runAll_of_failFast {tasks : List Task} {made : List Attempt}
    {r : Option (Except Interruption TaskResult)}
    (hchain : Chain host processes s made last) (hfast : FailFast tasks made r) :
    let ran := runAll host processes tasks s
    ran.value = lastResult made ∧ ran.state = last ∧
      ran.trace.spawns = made.map (Attempt.spawn host) := by
  induction tasks generalizing s made with
  | nil =>
    obtain ⟨rfl, -⟩ := hfast.of_nil
    cases hchain
    exact ⟨rfl, rfl, rfl⟩
  | cons t tasks ih =>
    obtain ⟨a, rest, rfl, rfl, hrest⟩ := hfast.of_cons
    obtain ⟨hattempt, htail⟩ := hchain.of_cons
    have hvalue : (a.task.run host processes [] s).value = a.result := by
      rw [Task.value_run, hattempt]
    rcases hrest with ⟨⟨result, hresult, hok⟩, hfast⟩ | ⟨hfailed, rfl, -⟩
    · obtain ⟨hlast, hstate, hspawns⟩ := ih htail hfast
      rw [runAll_cons_of_passed (hvalue.trans hresult) hok]
      refine ⟨?_, hstate, by simp [hspawns, Attempt.spawn]⟩
      rw [lastResult_cons hresult, hlast]
    · cases htail
      rw [runAll_cons_of_not_passed (hattempt.symm ▸ hfailed)]
      exact ⟨congrArg (Except.map some) hvalue, rfl, rfl⟩

theorem FailFast.eq_nil_iff {tasks : List Task} {made : List Attempt}
    {r : Option (Except Interruption TaskResult)} (h : FailFast tasks made r) :
    made = [] ↔ tasks = [] := by
  cases tasks with
  | nil => simp [h.of_nil.1]
  | cons t tasks =>
    obtain ⟨a, rest, rfl, -⟩ := h.of_cons
    simp

namespace Pipeline

variable {p : Pipeline} {selected : List Stage} {made : List Attempt}

/-- What the result of a run of tasks says about the run of the stages that hold them. Without a
failure it is that of the last of all tasks; otherwise it is the one that the stages complain of. -/
structure Tells (p : Pipeline) (selected : List Stage) (made : List Attempt)
    (staged : Ran σ Verdict) (r : TaskResult) : Prop where
  failed : r.ok = false → ∃ before stage passed failed,
    StoppedAt p selected made staged before stage passed failed ∧ failed.result = .ok r
  passed : r.ok = true → made.map Attempt.task = selected.flatMap Stage.tasks ∧
    ∃ a, made.getLast? = some a ∧ a.result = .ok r

theorem exists_last_of_lastResult {r : TaskResult} (h : lastResult made = .ok (some r)) :
    ∃ a, made.getLast? = some a ∧ a.result = .ok r := by
  rw [lastResult] at h
  split at h
  · cases h
  · next a ha =>
    cases hresult : a.result with
    | error cause => simp [hresult, Except.map] at h
    | ok result =>
      rw [hresult] at h
      cases h
      exact ⟨a, ha, hresult⟩

theorem lastResult_eq_none_iff : lastResult made = .ok none ↔ made = [] := by
  rw [lastResult, ← List.getLast?_eq_none_iff]
  split
  · next hnone => simp [hnone]
  · next a ha => cases hresult : a.result <;> simp [ha, Except.map]

theorem Completed.lastResult_ne_error {ran : Ran σ Verdict} (h : Completed p selected made ran)
    (cause : Interruption) : lastResult made ≠ .error cause := by
  intro herror
  rw [lastResult] at herror
  split at herror
  · cases herror
  · next a ha =>
    obtain ⟨r, hr, -⟩ := h.passed a (List.mem_of_getLast? ha)
    simp [hr, Except.map] at herror

theorem Completed.tells {ran : Ran σ Verdict} (h : Completed p selected made ran)
    {r : TaskResult} (hr : lastResult made = .ok (some r)) :
    r.ok = true ∧ Tells p selected made ran r := by
  obtain ⟨a, ha, hresult⟩ := exists_last_of_lastResult hr
  have hok : r.ok = true :=
    (Attempt.passed_iff_of_result hresult).mp (h.passed a (List.mem_of_getLast? ha))
  exact ⟨hok, by simp [hok], fun _ => ⟨h.tasks, a, ha, hresult⟩⟩

theorem StoppedAt.tells {ran : Ran σ Verdict} {before : List Stage} {stage : Stage}
    {passed : List Attempt} {failed : Attempt} {r : TaskResult}
    (h : StoppedAt p selected made ran before stage passed failed) (hr : failed.result = .ok r) :
    Tells p selected made ran r :=
  ⟨fun _ => ⟨before, stage, passed, failed, h, hr⟩, by simp [h.ok_eq_false hr]⟩

/-- The tasks of selected stages, run in one go, start the same processes as the stages and reach
the same state. The run of the stages fails when the result of the tasks is not a success, and is
interrupted when they are. -/
theorem runAll_agrees (p : Pipeline) (host : Host) (processes : Processes σ)
    {selected : List Stage} (hsub : selected ⊆ p.stages) (s : σ) :
    let tasks := selected.flatMap Stage.tasks
    let flat := Task.runAll host processes tasks s
    let staged := p.runStages host processes .real selected s
    flat.trace.spawns = staged.trace.spawns ∧ flat.state = staged.state ∧
      (flat.value = .ok none ↔ tasks = []) ∧
      ((∃ r, flat.value = .ok (some r) ∧ r.ok = false) ↔ staged.value.code = .ok 1) ∧
      (∀ cause, flat.value = .error cause ↔ staged.value.code = .error cause) ∧
      ∃ made, Executed p host processes selected s made staged ∧
        ∀ r, flat.value = .ok (some r) → Tells p selected made staged r := by
  intro tasks flat staged
  obtain ⟨made, h⟩ := exists_executed_runReal p host processes selected hsub s
  obtain ⟨r, -, hfast⟩ := h.failFast
  obtain ⟨hvalue, hstate, hspawns⟩ := Task.runAll_of_failFast h.chain hfast
  have hlast : flat.value = lastResult made := hvalue
  have hnone : lastResult made = .ok none ↔ tasks = [] :=
    lastResult_eq_none_iff.trans hfast.eq_nil_iff
  rw [hlast]
  refine ⟨hspawns.trans h.spawns.symm, hstate, hnone, ?_⟩
  rcases h.ending with hdone | ⟨before, stage, passed, failed, hstop⟩
  · have hcode : staged.value.code = .ok 0 := congrArg Verdict.code hdone.value
    refine ⟨iff_of_false ?_ (by simp [hcode]), fun cause => ?_, made, h,
      fun r hr => (hdone.tells hr).2⟩
    · rintro ⟨r, hr, hfailed⟩
      simp [(hdone.tells hr).1] at hfailed
    · exact iff_of_false (hdone.lastResult_ne_error cause) (by simp [hcode])
  · have hmade : lastResult made = failed.result.map some :=
      hstop.attempts ▸ lastResult_concat passed failed
    have hcode : staged.value.code = failed.result.map fun _ => 1 := hstop.code
    rw [hmade, hcode]
    cases hresult : failed.result with
    | error cause =>
      exact ⟨by simp [Except.map], fun _ => by simp [Except.map], made, h, by simp [Except.map]⟩
    | ok r =>
      refine ⟨?_, fun _ => by simp [Except.map], made, h, ?_⟩
      · simp [Except.map, hstop.ok_eq_false hresult]
      · rintro _ ⟨⟩
        exact hstop.tells hresult

/-- Three stages, the second of them without tasks. Of the three starts the second ends with a code
that is tolerated, and the third with one that is not. -/
theorem runAll_agrees_tolerating :
    let tool : Task :=
      { executable := ⟨Path.parse "/bin/tool", by decide⟩, arguments := [], tolerated := [1] }
    let p : Pipeline := ⟨[⟨"first", "One tool", [tool]⟩, ⟨"second", "No tools", []⟩,
      ⟨"third", "Two tools", [tool, tool]⟩], by decide⟩
    let flat := Task.runAll .empty .counting (p.stages.flatMap Stage.tasks) 0
    let staged := p.runStages .empty .counting .real p.stages 0
    p.stages ⊆ p.stages ∧ flat.trace.spawns = staged.trace.spawns ∧ flat.state = staged.state ∧
      ∃ r made, flat.value = .ok (some r) ∧ r.code = 2 ∧ r.ok = false ∧
        staged.value.code = .ok 1 ∧ Executed p .empty .counting p.stages 0 made staged ∧
        Tells p p.stages made staged r := by
  intro tool p flat staged
  have hsub : p.stages ⊆ p.stages := List.Subset.refl _
  obtain ⟨hspawns, hstate, -, hfails, -, made, h, htells⟩ :=
    runAll_agrees p .empty .counting hsub 0
  have hvalue : flat.value = .ok (some ⟨Path.parse "/bin/tool", 2, false, ""⟩) := rfl
  exact ⟨hsub, hspawns, hstate, _, made, hvalue, rfl, rfl, hfails.mp ⟨_, hvalue, rfl⟩, h,
    htells _ hvalue⟩

end Pipeline

end FrameworkForge

import FrameworkForge.Pipeline.Run
import FrameworkForge.Proofs.Task.Outcome

/-! What a run of tasks attempts: the tasks in their order up to the first that fails. Attempts
follow one another as a chain of states of the processes. -/

namespace FrameworkForge

variable {σ : Type}

namespace Notice

def line? : Notice → Option String
  | line text => some text
  | record _ => none

end Notice

namespace Trace

/-- The lines on the error stream that are no records of the log. -/
def complaints (t : Trace) : List String :=
  t.err.filterMap Notice.line?

variable (first later : Trace) (lines : List String)

@[simp] theorem spawns_append : (first ++ later).spawns = first.spawns ++ later.spawns := rfl

@[simp] theorem out_append : (first ++ later).out = first.out ++ later.out := rfl

@[simp] theorem err_append : (first ++ later).err = first.err ++ later.err := rfl

@[simp] theorem spawns_empty : (∅ : Trace).spawns = [] := rfl

@[simp] theorem out_empty : (∅ : Trace).out = [] := rfl

@[simp] theorem complaints_empty : (∅ : Trace).complaints = [] := rfl

@[simp] theorem spawns_printed : (printed lines).spawns = [] := rfl

@[simp] theorem out_printed : (printed lines).out = lines := rfl

@[simp] theorem complaints_printed : (printed lines).complaints = [] := rfl

@[simp] theorem spawns_complained : (complained lines).spawns = [] := rfl

@[simp] theorem out_complained : (complained lines).out = [] := rfl

@[simp]
theorem complaints_append : (first ++ later).complaints = first.complaints ++ later.complaints := by
  simp [complaints]

@[simp]
theorem complaints_complained : (complained lines).complaints = lines := by
  simp [complaints, complained, noticed, List.filterMap_map, Function.comp_def, Notice.line?]

end Trace

/-- Processes that exit with the number of those before them, in places that are all directories. -/
def Processes.counting : Processes Int where
  start n _ := (.exited n, n + 1)
  look _ _ := .directory

/-- A task that was tried: what came of its start, and how its directory looked after that. -/
structure Attempt where
  task : Task
  outcome : Outcome
  sight : Sight

namespace Attempt

def spawn (host : Host) (a : Attempt) : Spawn :=
  a.task.spawn host

def result (a : Attempt) : Except Interruption TaskResult :=
  a.task.resultOf [] a.sight a.outcome

def Passed (a : Attempt) : Prop :=
  ∃ r, a.result = .ok r ∧ r.ok = true

/-- Why the attempt has no result, if it has none. -/
def Interrupted (a : Attempt) (cause : Interruption) : Prop :=
  a.task.Interrupted a.sight a.outcome cause

theorem result_eq_error_iff {a : Attempt} {cause : Interruption} :
    a.result = .error cause ↔ a.Interrupted cause :=
  Task.resultOf_eq_error_iff

theorem passed_iff_of_result {a : Attempt} {r : TaskResult} (h : a.result = .ok r) :
    a.Passed ↔ r.ok = true := by
  simp [Passed, h]

theorem not_passed_of_error {a : Attempt} {cause : Interruption} (h : a.result = .error cause) :
    ¬ a.Passed := by
  simp [Passed, h]

theorem map_spawn (host : Host) (made : List Attempt) :
    made.map (Attempt.spawn host) = (made.map Attempt.task).map (Task.spawn host) := by
  rw [List.map_map]
  rfl

end Attempt

/-- Attempts made one after another, from one state of the processes to another. -/
inductive Chain (host : Host) (processes : Processes σ) : σ → List Attempt → σ → Prop
  | nil (s : σ) : Chain host processes s [] s
  | cons {s next last : σ} {a : Attempt} {rest : List Attempt}
      (start : processes.start s (a.spawn host) = (a.outcome, next))
      (look : a.task.sight processes next = a.sight)
      (tail : Chain host processes next rest last) : Chain host processes s (a :: rest) last

namespace Chain

variable {host : Host} {processes : Processes σ} {s middle last : σ} {made later : List Attempt}

theorem append (h : Chain host processes s made middle)
    (h' : Chain host processes middle later last) :
    Chain host processes s (made ++ later) last := by
  induction h with
  | nil => exact h'
  | cons start look _ ih => exact .cons start look (ih h')

end Chain

/-- The attempts on tasks that stop at the first one that does not pass. If all tasks are attempted
and pass there is no failure; otherwise all attempts but the last one pass, which has the given
result or none. -/
def FailFast (tasks : List Task) (made : List Attempt) :
    Option (Except Interruption TaskResult) → Prop
  | none => made.map Attempt.task = tasks ∧ ∀ a ∈ made, a.Passed
  | some r => ∃ passed failed, made = passed ++ [failed] ∧ made.map Attempt.task <+: tasks ∧
      (∀ a ∈ passed, a.Passed) ∧ ¬ failed.Passed ∧ failed.result = r

namespace FailFast

variable {tasks : List Task} {made : List Attempt} {r : Option (Except Interruption TaskResult)}

theorem cons {a : Attempt} (ha : a.Passed) (h : FailFast tasks made r) :
    FailFast (a.task :: tasks) (a :: made) r := by
  cases r with
  | none =>
    obtain ⟨htasks, hpassed⟩ := h
    exact ⟨by simp [htasks], by simpa [ha] using hpassed⟩
  | some r =>
    obtain ⟨passed, failed, rfl, htasks, hpassed, hfailed, hr⟩ := h
    refine ⟨a :: passed, failed, rfl, ?_, by simpa [ha] using hpassed, hfailed, hr⟩
    simpa using htasks

theorem single {a : Attempt} (ha : ¬ a.Passed) (tasks : List Task) :
    FailFast (a.task :: tasks) [a] (some a.result) :=
  ⟨[], a, rfl, by simp, by simp, ha, rfl⟩

theorem prefix_tasks (h : FailFast tasks made r) : made.map Attempt.task <+: tasks := by
  cases r with
  | none => exact h.1 ▸ List.prefix_rfl
  | some r =>
    obtain ⟨-, -, -, hbegins, -⟩ := h
    exact hbegins

theorem of_nil (h : FailFast [] made r) : made = [] ∧ r = none := by
  cases r with
  | none => exact ⟨by simpa using h.1, rfl⟩
  | some r =>
    obtain ⟨passed, failed, rfl, htasks, -⟩ := h
    simp at htasks

theorem of_cons {t : Task} (h : FailFast (t :: tasks) made r) :
    ∃ a rest, made = a :: rest ∧ a.task = t ∧
      (a.Passed ∧ FailFast tasks rest r ∨ ¬ a.Passed ∧ rest = [] ∧ r = some a.result) := by
  cases r with
  | none =>
    obtain ⟨htasks, hpassed⟩ := h
    obtain ⟨a, rest, rfl, rfl, hrest⟩ := List.map_eq_cons_iff.mp htasks
    obtain ⟨ha, hpassed⟩ := List.forall_mem_cons.mp hpassed
    exact ⟨a, rest, rfl, rfl, .inl ⟨ha, hrest, hpassed⟩⟩
  | some r =>
    obtain ⟨passed, failed, rfl, htasks, hpassed, hfailed, rfl⟩ := h
    cases passed with
    | nil => exact ⟨failed, [], rfl, by simpa using htasks, .inr ⟨hfailed, rfl, rfl⟩⟩
    | cons a passed =>
      obtain ⟨ha, hpassed⟩ := List.forall_mem_cons.mp hpassed
      obtain ⟨htask, hrest⟩ : a.task = t ∧ (passed ++ [failed]).map Attempt.task <+: tasks := by
        simpa using htasks
      exact ⟨a, passed ++ [failed], rfl, htask,
        .inl ⟨ha, passed, failed, rfl, hrest, hpassed, hfailed, rfl⟩⟩

end FailFast

namespace Task

variable (host : Host) (processes : Processes σ) (t : Task) (s : σ)

def attempt : Attempt :=
  ⟨t, (processes.start s (t.spawn host)).1,
    t.sight processes (processes.start s (t.spawn host)).2⟩

theorem chain_run :
    Chain host processes s [t.attempt host processes s] (t.run host processes [] s).state :=
  .cons rfl rfl (.nil _)

theorem value_run :
    (t.run host processes [] s).value = (t.attempt host processes s).result :=
  rfl

@[simp] theorem spawns_run (allowed : List Int) :
    (t.run host processes allowed s).trace.spawns = [t.spawn host] :=
  rfl

@[simp] theorem out_run (allowed : List Int) : (t.run host processes allowed s).trace.out = [] :=
  rfl

/-- At its end a task leaves a record in the log, if anything. -/
theorem filterMap_line?_endNotices (result : Except Interruption TaskResult) (outcome : Outcome) :
    (t.endNotices result outcome).filterMap Notice.line? = [] := by
  cases result with
  | error cause => rfl
  | ok r =>
    cases outcome with
    | exited code =>
      simp only [endNotices]
      split <;> simp [Notice.debug, Notice.line?]
    | failed fault => rfl
    | refused text => rfl

@[simp]
theorem complaints_run (allowed : List Int) :
    (t.run host processes allowed s).trace.complaints = [] := by
  simp only [Task.run, Trace.complaints, List.filterMap_cons, Notice.debug, Notice.line?]
  exact t.filterMap_line?_endNotices _ _

variable {host processes t s}

/-- After a success the tasks that follow have the say, unless there are none. -/
theorem runAll_cons_of_passed {r : TaskResult} (hr : (t.run host processes [] s).value = .ok r)
    (hok : r.ok = true) (tasks : List Task) :
    let first := t.run host processes [] s
    let later := runAll host processes tasks first.state
    runAll host processes (t :: tasks) s =
      ⟨later.value.map fun last => some (last.getD r), first.trace ++ later.trace,
        later.state⟩ := by
  simp [runAll, hr, hok]

theorem runAll_cons_of_not_passed (h : ¬ (t.attempt host processes s).Passed)
    (tasks : List Task) :
    let first := t.run host processes [] s
    runAll host processes (t :: tasks) s =
      ⟨first.value.map some, first.trace, first.state⟩ := by
  intro first
  cases hr : first.value with
  | error cause =>
    have hvalue : (t.run host processes [] s).value = .error cause := hr
    simp only [runAll, hvalue]
    rfl
  | ok r =>
    have hvalue : (t.run host processes [] s).value = .ok r := hr
    have hok : ¬ r.ok = true := fun hok => h ⟨r, hvalue, hok⟩
    simp only [runAll, hvalue, hok]
    rfl

theorem failure?_map_some {a : Attempt} (h : ¬ a.Passed) :
    Pipeline.failure? (a.result.map some) = some a.result := by
  cases hr : a.result with
  | error cause => rfl
  | ok r =>
    have hok : ¬ r.ok = true := mt (Attempt.passed_iff_of_result hr).mpr h
    simp [Except.map, Pipeline.failure?, hok]

theorem failure?_map_getD {r : TaskResult} (hok : r.ok = true)
    (value : Except Interruption (Option TaskResult)) :
    Pipeline.failure? (value.map fun last => some (last.getD r)) = Pipeline.failure? value := by
  rcases value with cause | _ | last <;> simp [Except.map, Pipeline.failure?, hok]

variable (host processes)

/-- What a run of tasks does: it attempts them up to the first that does not pass, starts nothing
else, and prints nothing. -/
structure Attempted (s : σ) (tasks : List Task) (made : List Attempt)
    (ran : Ran σ (Except Interruption (Option TaskResult))) : Prop where
  chain : Chain host processes s made ran.state
  spawns : ran.trace.spawns = made.map (Attempt.spawn host)
  failFast : FailFast tasks made (Pipeline.failure? ran.value)
  out : ran.trace.out = []
  complaints : ran.trace.complaints = []

theorem exists_attempted_runAll (tasks : List Task) (s : σ) :
    ∃ made, Attempted host processes s tasks made (runAll host processes tasks s) := by
  induction tasks generalizing s with
  | nil => exact ⟨[], .nil s, rfl, ⟨rfl, by simp⟩, rfl, rfl⟩
  | cons t tasks ih =>
    have hchain := t.chain_run host processes s
    by_cases hpassed : (t.attempt host processes s).Passed
    · obtain ⟨r, hr, hok⟩ := id hpassed
      obtain ⟨made, h⟩ := ih (t.run host processes [] s).state
      refine ⟨t.attempt host processes s :: made, ?_⟩
      rw [runAll_cons_of_passed hr hok]
      refine ⟨hchain.append h.chain, by simp [h.spawns, Attempt.spawn, attempt], ?_,
        by simp [h.out], by simp [h.complaints]⟩
      rw [failure?_map_getD hok]
      exact h.failFast.cons hpassed
    · refine ⟨[t.attempt host processes s], ?_⟩
      rw [runAll_cons_of_not_passed hpassed]
      refine ⟨hchain, rfl, ?_, rfl, by simp⟩
      rw [value_run, failure?_map_some hpassed]
      exact FailFast.single hpassed tasks

end Task

end FrameworkForge

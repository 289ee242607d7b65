import FrameworkForge.Proofs.Run.Selection

/-! A run of a range is a run of its first stages, followed by one of the others when the first run
was complete. After a failure the run can be taken up again at the stage that failed. -/

namespace FrameworkForge

variable {σ : Type}

namespace Trace

theorem append_assoc (first later last : Trace) :
    first ++ later ++ last = first ++ (later ++ last) := by
  show append (append first later) last = append first (append later last)
  simp [append]

theorem empty_append (t : Trace) : ∅ ++ t = t :=
  rfl

theorem printed_append (lines more : List String) :
    printed (lines ++ more) = printed lines ++ printed more := by
  show printed (lines ++ more) = append (printed lines) (printed more)
  simp [printed, append]

end Trace

/-- What follows a run starts in the state that it has reached, and only if its code is zero. -/
def Ran.followedBy (first : Ran σ Verdict) (next : σ → Ran σ Verdict) : Ran σ Verdict :=
  match first.value.code with
  | .ok 0 =>
    ⟨(next first.state).value, first.trace ++ (next first.state).trace, (next first.state).state⟩
  | _ => first

namespace Pipeline

section

variable (p : Pipeline) (host : Host) (processes : Processes σ)

/-- The run of a range of stages, or the error that refuses the range. -/
def run (mode : Mode) (start stop : Option String) (s : σ) : Except Error (Ran σ Verdict) := do
  return p.runStages host processes mode (← p.select start stop) s

/-- The stages at the places from `i` through `j`, counted from zero. -/
def range (i j : Nat) : List Stage :=
  (p.stages.take (j + 1)).drop i

theorem runReal_append (stages more : List Stage) (s : σ) :
    p.runReal host processes (stages ++ more) s =
      (p.runReal host processes stages s).followedBy (p.runReal host processes more) := by
  induction stages generalizing s with
  | nil => simp [runReal, Ran.followedBy, Verdict.code, Trace.empty_append]
  | cons stage stages ih =>
    simp only [List.cons_append, runReal]
    cases hfirst : (p.runStage host processes stage s).value with
    | stopped => simp [Ran.followedBy, hfirst, Verdict.code]
    | interrupted cause => simp [Ran.followedBy, hfirst, Verdict.code]
    | complete =>
      simp only [ih, Ran.followedBy]
      split <;> simp_all [Trace.append_assoc]

theorem runStages_append (mode : Mode) (stages more : List Stage) (s : σ) :
    p.runStages host processes mode (stages ++ more) s =
      (p.runStages host processes mode stages s).followedBy
        (p.runStages host processes mode more) := by
  cases mode with
  | real => exact p.runReal_append host processes stages more s
  | rehearsal =>
    simp [runStages, Ran.followedBy, Verdict.code, rehearsed, Trace.printed_append]

theorem range_append {i k j : Nat} (hik : i ≤ k) (hkj : k < j) :
    p.range i k ++ p.range (k + 1) j = p.range i j := by
  have hlater : (p.stages.drop i).drop (k + 1 - i) = p.stages.drop (k + 1) := by
    rw [List.drop_drop, show i + (k + 1 - i) = k + 1 by omega]
  have hlength : j + 1 - i = (k + 1 - i) + (j + 1 - (k + 1)) := by omega
  simp only [range, List.drop_take]
  rw [hlength, List.take_add, hlater]

end

variable {p : Pipeline} {host : Host} {processes : Processes σ}

theorem select_range {i j : Nat} {first last : Stage} (hfirst : p.stages[i]? = some first)
    (hlast : p.stages[j]? = some last) (hij : i ≤ j) :
    p.select (some first.name) (some last.name) = .ok (p.range i j) := by
  have hknown {n : Nat} {stage : Stage} (h : p.stages[n]? = some stage) : stage.name ∈ p.names :=
    List.mem_map_of_mem (List.mem_of_getElem? h)
  have hstart : p.firstOf (some first.name) = i + 1 := p.position_getElem hfirst
  have hstop : p.lastOf (some last.name) = j + 1 := p.position_getElem hlast
  refine select_eq_ok_iff.mpr ⟨?_, by omega, ?_⟩
  · intro name hname
    rcases hname with hname | hname <;> cases hname
    · exact hknown hfirst
    · exact hknown hlast
  · rw [hstart, hstop]
    rfl

theorem run_range {i j : Nat} {first last : Stage} (hfirst : p.stages[i]? = some first)
    (hlast : p.stages[j]? = some last) (hij : i ≤ j) (mode : Mode) (s : σ) :
    p.run host processes mode (some first.name) (some last.name) s =
      .ok (p.runStages host processes mode (p.range i j) s) := by
  rw [run, select_range hfirst hlast hij]
  rfl

theorem range_subset (p : Pipeline) (i j : Nat) : p.range i j ⊆ p.stages :=
  fun _ h => List.mem_of_mem_take (List.mem_of_mem_drop h)

theorem range_eq_cons {i j : Nat} {stage : Stage} (h : p.stages[i]? = some stage) (hij : i ≤ j) :
    p.range i j = stage :: p.range (i + 1) j := by
  have htake : (p.stages.take (j + 1))[i]? = some stage := by
    rw [List.getElem?_take_of_lt (by omega), h]
  obtain ⟨hi, rfl⟩ := List.getElem?_eq_some_iff.mp htake
  exact List.drop_eq_getElem_cons hi

/-- A stage that a run of the range has reached stands in the range, behind those before it. -/
theorem place_of_reached {i j : Nat} {before : List Stage} {stage : Stage}
    (h : before ++ [stage] <+: p.range i j) :
    p.stages[i + before.length]? = some stage ∧ i + before.length ≤ j := by
  have hreached : (p.range i j)[before.length]? = some stage := by
    obtain ⟨after, hafter⟩ := h
    simp [← hafter]
  rw [range, List.getElem?_drop] at hreached
  have hbound : i + before.length < j + 1 := by
    by_contra hge
    rw [List.getElem?_take_eq_none (by omega)] at hreached
    cases hreached
  rw [List.getElem?_take_of_lt hbound] at hreached
  exact ⟨hreached, by omega⟩

/-- The run starts with the first task of the stage and comes to no other tasks than those of the
given stages. -/
def StartsAt (host : Host) (stage : Stage) (stages : List Stage) (ran : Ran σ Verdict) : Prop :=
  ∃ t later, stage.tasks.head? = some t ∧
    ran.trace.spawns = (t :: later).map (Task.spawn host) ∧ t :: later <+: stages.flatMap Stage.tasks

theorem startsAt_of_executed {s : σ} {stage : Stage} {stages : List Stage} {made : List Attempt}
    {ran : Ran σ Verdict} (htasks : stage.tasks ≠ [])
    (h : Executed p host processes (stage :: stages) s made ran) :
    StartsAt host stage (stage :: stages) ran := by
  obtain ⟨t, rest, ht⟩ := List.exists_cons_of_ne_nil htasks
  have hall : (stage :: stages).flatMap Stage.tasks = t :: (rest ++ stages.flatMap Stage.tasks) := by
    simp [ht]
  have hfirst : ∃ later, made.map Attempt.task = t :: later := by
    obtain ⟨_, -, hfast⟩ := h.failFast
    rw [hall] at hfast
    obtain ⟨a, made, rfl, rfl, -⟩ := hfast.of_cons
    exact ⟨made.map Attempt.task, rfl⟩
  obtain ⟨later, hlater⟩ := hfirst
  have hspawns := h.spawns.trans (Attempt.map_spawn host made)
  have hbegins := h.prefix_tasks
  rw [hlater] at hspawns hbegins
  exact ⟨t, later, by simp [ht], hspawns, hbegins⟩

/-- A stage that stopped a run has a task, namely the one that failed. -/
theorem StoppedAt.tasks_ne_nil {stages before : List Stage} {made passed : List Attempt}
    {ran : Ran σ Verdict} {stage : Stage} {failed : Attempt}
    (h : StoppedAt p stages made ran before stage passed failed) : stage.tasks ≠ [] := by
  obtain ⟨done, -, hbegins, hne⟩ := h.inStage
  intro hnil
  rw [hnil, List.prefix_nil] at hbegins
  exact hne hbegins

theorem startsAt_run {m j : Nat} {stage last : Stage} (hstage : p.stages[m]? = some stage)
    (hlast : p.stages[j]? = some last) (hmj : m ≤ j) (htasks : stage.tasks ≠ []) (s : σ) :
    ∃ resumed, p.run host processes .real (some stage.name) (some last.name) s = .ok resumed ∧
      StartsAt host stage (p.range m j) resumed := by
  refine ⟨_, run_range hstage hlast hmj .real s, ?_⟩
  obtain ⟨made, h⟩ := exists_executed_runReal p host processes (p.range m j) (p.range_subset m j) s
  rw [range_eq_cons hstage hmj] at h ⊢
  exact startsAt_of_executed htasks h

/-- The run of a range does what the run of its first stages does, and then what the run of its
other stages does in the state reached, unless the first run stopped. A run that stopped has done so at
a stage of the range, and a run from that stage on begins with its first task. -/
theorem run_composes {i k j : Nat} {first middle next last : Stage}
    (hfirst : p.stages[i]? = some first) (hmiddle : p.stages[k]? = some middle)
    (hnext : p.stages[k + 1]? = some next) (hlast : p.stages[j]? = some last) (hik : i ≤ k)
    (hkj : k < j) (host : Host) (processes : Processes σ) (mode : Mode) (s : σ) :
    ∃ whole begun later,
      p.run host processes mode (some first.name) (some last.name) s = .ok whole ∧
      p.run host processes mode (some first.name) (some middle.name) s = .ok begun ∧
      (∀ state, p.run host processes mode (some next.name) (some last.name) state =
        .ok (later state)) ∧
      whole = begun.followedBy later ∧
      (whole.value.code ≠ .ok 0 → ∃ m stage made before passed failed,
        i ≤ m ∧ m ≤ j ∧ p.stages[m]? = some stage ∧
        StoppedAt p (p.range i j) made whole before stage passed failed ∧
        ∃ resumed, p.run host processes mode (some stage.name) (some last.name) whole.state =
            .ok resumed ∧ StartsAt host stage (p.range m j) resumed) := by
  have hij : i ≤ j := by omega
  refine ⟨_, _, _, run_range hfirst hlast hij mode s, run_range hfirst hmiddle hik mode s,
    run_range hnext hlast hkj mode, ?_, ?_⟩
  · rw [← range_append p hik hkj, runStages_append]
  · intro hcode
    cases mode with
    | rehearsal => simp [runStages, Verdict.code] at hcode
    | real =>
      obtain ⟨made, h⟩ :=
        exists_executed_runReal p host processes (p.range i j) (p.range_subset i j) s
      rcases h.ending with hdone | ⟨before, stage, passed, failed, hstop⟩
      · exact absurd (congrArg Verdict.code hdone.value) hcode
      · obtain ⟨hplace, hmj⟩ := place_of_reached hstop.reached
        refine ⟨i + before.length, stage, made, before, passed, failed, by omega, hmj, hplace,
          hstop, ?_⟩
        exact startsAt_run hplace hlast hmj hstop.tasks_ne_nil _

/-- Three stages, and processes that exit with the number of those before them. The second stage
fails, and the run from it on starts its only task again. -/
theorem run_composes_counting :
    let tool : Task := { executable := ⟨Path.parse "/bin/tool", by decide⟩, arguments := [] }
    let stage (name : String) : Stage := ⟨name, "One tool", [tool]⟩
    let p : Pipeline := ⟨[stage "first", stage "second", stage "third"], by decide⟩
    p.stages[0]? = some (stage "first") ∧ p.stages[1]? = some (stage "second") ∧
      p.stages[2]? = some (stage "third") ∧
    ∃ whole begun later,
      p.run .empty .counting .real (some "first") (some "third") 0 = .ok whole ∧
      p.run .empty .counting .real (some "first") (some "first") 0 = .ok begun ∧
      (∀ state, p.run .empty .counting .real (some "second") (some "third") state =
        .ok (later state)) ∧
      whole = begun.followedBy later ∧
      (whole.value.code ≠ .ok 0 → ∃ m stage made before passed failed,
        0 ≤ m ∧ m ≤ 2 ∧ p.stages[m]? = some stage ∧
        StoppedAt p (p.range 0 2) made whole before stage passed failed ∧
        ∃ resumed, p.run .empty .counting .real (some stage.name) (some "third") whole.state =
            .ok resumed ∧ StartsAt .empty stage (p.range m 2) resumed) := by
  intro tool stage p
  have hfirst : p.stages[0]? = some (stage "first") := rfl
  have hsecond : p.stages[1]? = some (stage "second") := rfl
  have hthird : p.stages[2]? = some (stage "third") := rfl
  refine ⟨hfirst, hsecond, hthird, ?_⟩
  exact run_composes hfirst hfirst hsecond hthird (by omega) (by omega) .empty .counting .real 0

end Pipeline

end FrameworkForge

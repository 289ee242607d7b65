import FrameworkForge.Proofs.Config.Usual
import FrameworkForge.Proofs.Run.FailedStart
import FrameworkForge.Proofs.Run.Spans

/-! What the exit code of a whole build says about its processes. The calls of a build are a list
of tools, and of each tool it is known which exit codes let the build go on. -/

namespace FrameworkForge

namespace Tool

/-- The tools whose exit with one only says that what was wanted is already so. -/
def tolerant : List Tool :=
  [rustup, rm, mkdir]

/-- The outcomes of a process of the tool after which a build goes on. -/
def GoesOn (tool : Tool) (o : Outcome) : Prop :=
  o = .exited 0 ∨ tool ∈ tolerant ∧ o = .exited 1

end Tool

namespace Build

open Recipe

def calls (c : Config) : List Tool :=
  [.rustup, .rm, .rm, .rm, .cargo, .mkdir, .cargo, .cargo] ++
    c.targets.targets.map (fun _ => .cargo) ++ [.mv, .lipo, .xcodebuild, .zip, .swift]

/-- The task calls the tool, and no other exit codes than those of the tool count as success. -/
structure Calls (c : Config) (tool : Tool) (t : Task) : Prop where
  executable : t.executable = c.tools.executable tool
  tolerated : t.tolerated = if tool ∈ Tool.tolerant then [alreadySo] else []

theorem calls_stages (c : Config) :
    List.Forall₂ (Calls c) (calls c) ((stages c).flatMap Stage.tasks) := by
  have hreleases : List.Forall₂ (Calls c) (c.targets.targets.map fun _ => .cargo)
      (releaseBuilds c).tasks := by
    simp only [releaseBuilds, List.forall₂_map_left_iff, List.forall₂_map_right_iff,
      List.forall₂_same]
    exact fun t _ => ⟨rfl, rfl⟩
  have hfirst : List.Forall₂ (Calls c) [.rustup, .rm, .rm, .rm, .cargo, .mkdir, .cargo, .cargo]
      (((stages c).take 6).flatMap Stage.tasks) := by
    repeat refine .cons ⟨rfl, rfl⟩ ?_
    exact .nil
  have hlast : List.Forall₂ (Calls c) [.mv, .lipo, .xcodebuild, .zip, .swift]
      (((stages c).drop 7).flatMap Stage.tasks) := by
    repeat refine .cons ⟨rfl, rfl⟩ ?_
    exact .nil
  have hsplit : (stages c).flatMap Stage.tasks = ((stages c).take 6).flatMap Stage.tasks ++
      (releaseBuilds c).tasks ++ ((stages c).drop 7).flatMap Stage.tasks := by
    simp [stages]
  rw [hsplit]
  exact List.rel_append (List.rel_append hfirst hreleases) hlast

/-- A failed start has a code that no tool of a build tolerates. -/
theorem passed_iff_goesOn {c : Config} {tool : Tool} {a : Attempt} (h : Calls c tool a.task) :
    a.Passed ↔ tool.GoesOn a.outcome := by
  have htolerated := h.tolerated
  obtain ⟨t, outcome, sight⟩ := a
  cases outcome with
  | exited code =>
    by_cases htool : tool ∈ Tool.tolerant <;>
      simp_all [Attempt.Passed, Attempt.result, Task.resultOf, Task.accepting, Task.accepts,
        Tool.GoesOn, alreadySo]
  | refused text => simp [Attempt.Passed, Attempt.result, Task.resultOf, Tool.GoesOn]
  | failed fault =>
    have hunexcused : ¬ t.Excuses [] sight fault := by
      rintro ⟨code, reason, hfault, hmem⟩
      rcases t.startFailure_cases sight fault with ⟨_, -, h⟩ | ⟨-, _, _, h, hcode, -⟩
      · simp [h] at hfault
      · rw [h] at hfault
        cases hfault
        rw [or_iff_left List.not_mem_nil, show t.tolerated = _ from htolerated] at hmem
        split at hmem
        · simp only [alreadySo, List.mem_singleton] at hmem
          omega
        · exact List.not_mem_nil hmem
    refine iff_of_false (mt (Attempt.passed_iff_of_failed rfl).mp hunexcused) ?_
    simp [Tool.GoesOn]

theorem goesOn_of_passed {c : Config} {tools : List Tool} {made : List Attempt}
    (hcalls : List.Forall₂ (Calls c) tools (made.map Attempt.task))
    (hpassed : ∀ a ∈ made, a.Passed) :
    List.Forall₂ (fun tool a => tool.GoesOn a.outcome) tools made := by
  rw [List.forall₂_map_right_iff] at hcalls
  induction hcalls with
  | nil => exact .nil
  | cons hcall _ ih =>
    obtain ⟨hfirst, hrest⟩ := List.forall_mem_cons.mp hpassed
    exact .cons ((passed_iff_goesOn hcall).mp hfirst) (ih hrest)

/-- The tools that work on what the release builds and the bindings have left. -/
def packers : List Tool :=
  [.lipo, .xcodebuild, .zip, .swift]

theorem pairwise_calls (c : Config) :
    (calls c).Pairwise fun earlier later => later = .mv → earlier ∉ packers := by
  simp [calls, packers, List.pairwise_append, List.pairwise_cons]

theorem not_packer_of_mv {c : Config} {i : Nat} (h : (calls c)[i]? = some .mv) :
    ∀ tool ∈ (calls c).take (i + 1), tool ∉ packers := by
  obtain ⟨hi, hmv⟩ := List.getElem?_eq_some_iff.mp h
  intro tool htool
  obtain ⟨j, hj, rfl⟩ := List.mem_take_iff_getElem.mp htool
  by_cases hji : j = i
  · subst hji
    rw [hmv]
    decide
  · exact List.pairwise_iff_getElem.mp (pairwise_calls c) j i (by omega) hi (by omega) hmv

theorem forall₂_calls_of_prefix {c : Config} {tools : List Tool} {tasks : List Task}
    (hcalls : List.Forall₂ (Calls c) tools tasks) {made : List Attempt}
    (hbegins : made.map Attempt.task <+: tasks) :
    List.Forall₂ (Calls c) (tools.take made.length) (made.map Attempt.task) := by
  have htake := List.prefix_iff_eq_take.mp hbegins
  rw [List.length_map] at htake
  rw [htake]
  exact List.forall₂_take made.length hcalls

theorem exists_call_of_last {c : Config} {tools : List Tool} {tasks : List Task}
    (hcalls : List.Forall₂ (Calls c) tools tasks) {passed : List Attempt} {failed : Attempt}
    (hbegins : (passed ++ [failed]).map Attempt.task <+: tasks) :
    ∃ tool, tools[passed.length]? = some tool ∧ Calls c tool failed.task := by
  have hlength := hcalls.length_eq
  have hbound := hbegins.length_le
  have htask := hbegins.getElem (i := passed.length) (by simp)
  simp only [List.length_map, List.length_append, List.length_singleton] at hbound
  have htools : passed.length < tools.length := by omega
  refine ⟨tools[passed.length], List.getElem?_eq_getElem htools, ?_⟩
  simpa [← htask] using hcalls.get htools (by omega)

/-- The attempts of a build end at the first call after which it does not go on. When that is the
renaming of the module map, no packer was called. -/
structure HaltsAt (c : Config) (tasks : List Task) (made passed : List Attempt) (failed : Attempt)
    (tool : Tool) : Prop where
  attempts : made = passed ++ [failed]
  inOrder : made.map Attempt.task <+: tasks
  goesOn : List.Forall₂ (fun tool a => tool.GoesOn a.outcome) ((calls c).take passed.length) passed
  call : (calls c)[passed.length]? = some tool
  halt : ¬ tool.GoesOn failed.outcome
  noPacker : tool = .mv → ∀ called ∈ (calls c).take made.length, called ∉ packers

/-- How the attempts of a whole build end, and with which code. Either the build goes on after each
of its calls; or it halts at one of them, with a code only if that was not interrupted. -/
inductive Ends (c : Config) (tasks : List Task) (made : List Attempt) :
    Except Interruption Nat → Prop
  | complete (attempted : made.map Attempt.task = tasks)
      (goesOn : List.Forall₂ (fun tool a => tool.GoesOn a.outcome) (calls c) made) :
      Ends c tasks made (.ok 0)
  | stopped {passed : List Attempt} {failed : Attempt} {tool : Tool}
      (halts : HaltsAt c tasks made passed failed tool)
      (result : ∀ cause, ¬ failed.Interrupted cause) : Ends c tasks made (.ok 1)
  | interrupted {passed : List Attempt} {failed : Attempt} {tool : Tool} {cause : Interruption}
      (halts : HaltsAt c tasks made passed failed tool)
      (noResult : failed.Interrupted cause) : Ends c tasks made (.error cause)

theorem Ends.of_halt {c : Config} {tasks : List Task} {made passed : List Attempt}
    {failed : Attempt} {tool : Tool} (h : HaltsAt c tasks made passed failed tool) :
    Ends c tasks made (failed.result.map fun _ => 1) := by
  cases hr : failed.result with
  | ok r =>
    refine .stopped h fun cause hcause => ?_
    simp [Attempt.result_eq_error_iff.mpr hcause] at hr
  | error cause => exact .interrupted h (Attempt.result_eq_error_iff.mp hr)

variable {σ : Type}

theorem ends_of_executed {c : Config} {p : Pipeline}
    (hcalls : List.Forall₂ (Calls c) (calls c) (p.stages.flatMap Stage.tasks)) {host : Host}
    {processes : Processes σ} {s : σ} {made : List Attempt} {ran : Ran σ Verdict}
    (h : Pipeline.Executed p host processes p.stages s made ran) :
    Ends c (p.stages.flatMap Stage.tasks) made ran.value.code := by
  rcases h.ending with hdone | ⟨before, stage, passed, failed, hstop⟩
  · rw [hdone.value]
    exact .complete hdone.tasks (goesOn_of_passed (by rwa [hdone.tasks]) hdone.passed)
  · have hbegins := h.prefix_tasks
    obtain rfl := hstop.attempts
    obtain ⟨tool, htool, hcall⟩ := exists_call_of_last hcalls hbegins
    have hearlier : passed.map Attempt.task <+: (passed ++ [failed]).map Attempt.task := by simp
    have hcalled := forall₂_calls_of_prefix hcalls (hearlier.trans hbegins)
    rw [hstop.code]
    exact .of_halt {
      attempts := rfl
      inOrder := hbegins
      goesOn := goesOn_of_passed hcalled hstop.allPassed
      call := htool
      halt := fun hgo => hstop.notPassed ((passed_iff_goesOn hcall).mpr hgo)
      noPacker := by
        rintro rfl
        simpa using not_packer_of_mv htool }

theorem select_all {c : Config} {p : Pipeline} (hp : pipeline c = .ok p) :
    p.select none none = .ok p.stages :=
  Pipeline.select_all_of_ne_nil (stages_ne_nil hp)

end Build

end FrameworkForge

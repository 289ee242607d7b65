import FrameworkForge.Proofs.Run.FailFast

/-! What a rehearsal promises. It lists the stages and their tasks and starts nothing; a real run
announces the same stages and starts the same tasks, as far as it comes. -/

namespace FrameworkForge.Pipeline

variable {σ : Type} {p : Pipeline} {host : Host} {processes : Processes σ}

/-- The lines list the stages in order, each by its header and a line for each of its tasks. The
headers alone and the listed tasks stand beside the lines. -/
inductive Lists (p : Pipeline) : List Stage → List String → List Task → List String → Prop
  | nil : Lists p [] [] [] []
  | cons {stage : Stage} {header : String} {stages : List Stage} {headers : List String}
      {tasks : List Task} {lines : List String} (announces : p.Announces stage header)
      (rest : Lists p stages headers tasks lines) :
      Lists p (stage :: stages) (header :: headers) (stage.tasks ++ tasks)
        (header :: (stage.tasks.map fun t => "  " ++ t.describe) ++ lines)

theorem lists_rehearsed {stages : List Stage} (hsub : stages ⊆ p.stages) :
    Lists p stages (stages.map (Stage.header p)) (stages.flatMap Stage.tasks)
      (p.rehearsed stages).out := by
  induction stages with
  | nil => exact .nil
  | cons stage stages ih =>
    have hstage : p.Announces stage (stage.header p) := announces_header (hsub List.mem_cons_self)
    have hrest := ih (List.subset_of_cons_subset hsub)
    exact .cons hstage hrest

/-- A stage has one place in its pipeline, and so one header. -/
theorem Announces.eq_header {stage : Stage} {line : String} (h : p.Announces stage line) :
    line = stage.header p := by
  obtain ⟨i, hi, rfl⟩ := h
  rw [Stage.header, p.position_getElem hi]

theorem eq_headers_of_announces {stages : List Stage} {lines : List String}
    (h : List.Forall₂ p.Announces stages lines) : lines = stages.map (Stage.header p) := by
  induction h with
  | nil => rfl
  | cons hstage _ ih => rw [hstage.eq_header, ih, List.map_cons]

theorem Executed.prefix_headers {s : σ} {stages : List Stage} {made : List Attempt}
    {ran : Ran σ Verdict} (h : Executed p host processes stages s made ran) :
    ran.trace.out <+: stages.map (Stage.header p) := by
  rcases h.ending with hdone | ⟨before, stage, passed, failed, hstop⟩
  · exact eq_headers_of_announces hdone.out ▸ List.prefix_rfl
  · rw [eq_headers_of_announces hstop.out]
    exact hstop.reached.map _

/-- A run comes to its end when nothing that it attempts fails. -/
theorem Executed.completed {s : σ} {stages : List Stage} {made : List Attempt}
    {ran : Ran σ Verdict} (h : Executed p host processes stages s made ran)
    (hpassed : ∀ a ∈ made, a.Passed) : Completed p stages made ran := by
  rcases h.ending with hdone | ⟨before, stage, passed, failed, hstop⟩
  · exact hdone
  · have hmem : failed ∈ made := by simp [hstop.attempts]
    exact absurd (hpassed failed hmem) hstop.notPassed

/-- A rehearsal starts nothing. It lists what a real run of the same stages does in any world: the
run announces the listed stages and attempts the listed tasks in their order, and all of them as
long as no attempt fails. -/
theorem rehearsal_foretells (host : Host) (processes : Processes σ) {selected : List Stage}
    (hoffers : p.Offers selected) (s : σ) :
    let rehearsal := p.runStages host processes .rehearsal selected s
    let ran := p.runStages host processes .real selected s
    rehearsal.trace.spawns = [] ∧ rehearsal.state = s ∧ rehearsal.value.code = .ok 0 ∧
    ∃ headers tasks made, Lists p selected headers tasks rehearsal.trace.out ∧
      Chain host processes s made ran.state ∧
      ran.trace.spawns = made.map (Attempt.spawn host) ∧
      made.map Attempt.task <+: tasks ∧ ran.trace.out <+: headers ∧
      ((∀ a ∈ made, a.Passed) → made.map Attempt.task = tasks ∧ ran.trace.out = headers) := by
  intro rehearsal ran
  obtain ⟨made, h⟩ := exists_executed_runReal p host processes selected hoffers.subset s
  refine ⟨rfl, rfl, rfl, _, _, made, lists_rehearsed hoffers.subset, h.chain, h.spawns,
    h.prefix_tasks, h.prefix_headers, ?_⟩
  intro hpassed
  have hdone := h.completed hpassed
  exact ⟨hdone.tasks, eq_headers_of_announces hdone.out⟩

/-- Two stages, of which a real run leaves the second before its last task. -/
theorem rehearsal_foretells_counting :
    let tool : Task := { executable := ⟨Path.parse "/bin/tool", by decide⟩, arguments := [] }
    let p : Pipeline := ⟨[⟨"first", "One tool", [tool]⟩, ⟨"second", "Two tools", [tool, tool]⟩],
      by decide⟩
    let rehearsal := p.runStages .empty .counting .rehearsal p.stages 0
    let ran := p.runStages .empty .counting .real p.stages 0
    p.Offers p.stages ∧
    rehearsal.trace.spawns = [] ∧ rehearsal.state = 0 ∧ rehearsal.value.code = .ok 0 ∧
    ∃ headers tasks made, Lists p p.stages headers tasks rehearsal.trace.out ∧
      Chain .empty .counting 0 made ran.state ∧
      ran.trace.spawns = made.map (Attempt.spawn .empty) ∧
      made.map Attempt.task <+: tasks ∧ ran.trace.out <+: headers ∧
      ((∀ a ∈ made, a.Passed) →
        made.map Attempt.task = tasks ∧ ran.trace.out = headers) := by
  intro tool p rehearsal ran
  have hoffers : p.Offers p.stages := .inl ⟨none, none, rfl⟩
  exact ⟨hoffers, rehearsal_foretells .empty .counting hoffers 0⟩

end FrameworkForge.Pipeline

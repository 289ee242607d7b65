import FrameworkForge.Proofs.Build.Stages
import FrameworkForge.Proofs.Config.Faults

/-! Building the pipeline ends the program for one cause only: the name of the module map is no text.
Selecting stages never does. -/

namespace FrameworkForge

namespace Recipe

theorem not_escapes_mergeLibraries (inputs : List Path) (output root : Path) :
    ¬ Escapes (mergeLibraries inputs output root) := by
  rw [mergeLibraries]
  repeat' split
  all_goals first | exact Escapes.not_ok _ | exact Escapes.not_error rfl

theorem not_escapes_createFramework (libraries : List Path) (headers output root : Path) :
    ¬ Escapes (createFramework libraries headers output root) := by
  rw [createFramework]
  split
  · exact Escapes.not_error rfl
  · exact Escapes.not_ok _

end Recipe

namespace Pipeline

theorem not_escapes_ofStages (stages : List Stage) : ¬ Escapes (ofStages stages) := by
  rw [ofStages]
  split
  · exact Escapes.not_ok _
  · exact Escapes.not_error rfl

theorem not_escapes_checkStage (p : Pipeline) (bound : Option String) :
    ¬ Escapes (p.checkStage bound) := by
  rw [checkStage.eq_def]
  repeat' split
  all_goals first | exact Escapes.not_ok _ | exact Escapes.not_error rfl

theorem not_escapes_select (p : Pipeline) (start stop : Option String) :
    ¬ Escapes (p.select start stop) := by
  refine Escapes.not_bind (p.not_escapes_checkStage start) fun _ => ?_
  refine Escapes.not_bind (p.not_escapes_checkStage stop) fun _ => ?_
  dsimp only
  split
  · exact Escapes.not_error rfl
  · exact Escapes.not_ok _

theorem not_escapes_selectNamed (p : Pipeline) (wanted : List String) :
    ¬ Escapes (p.selectNamed wanted) := by
  rw [selectNamed]
  split
  · exact Escapes.not_ok _
  · exact Escapes.not_error rfl

end Pipeline

namespace Build

theorem escapes_pipeline_iff {c : Config} : Escapes (pipeline c) ↔
    (∀ v ∈ c.names, v.isWritable = true) ∧ c.moduleMapName.isText = false := by
  refine (Escapes.forM_bind_iff Value.not_escapes_checkWritable).trans (and_congr ?_ ?_)
  · simp only [Value.checkWritable_eq_ok_iff]
  · refine (Escapes.bind_left_iff fun _ => ?_).trans Config.escapes_fileIn_iff
    refine Escapes.not_bind (Recipe.not_escapes_mergeLibraries _ _ _) fun _ => ?_
    refine Escapes.not_bind (Recipe.not_escapes_createFramework _ _ _ _) fun _ => ?_
    exact Pipeline.not_escapes_ofStages _

end Build

end FrameworkForge

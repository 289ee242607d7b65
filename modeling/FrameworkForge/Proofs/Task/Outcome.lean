import FrameworkForge.Task.Run
import Mathlib.Data.List.Basic

/-! What the result of a task says of its process: the code that counts, whether that is a success,
and why a process was not started. A run has a result unless it is interrupted. -/

namespace FrameworkForge

theorem TaskResult.check_eq_error_iff {r : TaskResult} {failure : TaskFailure} :
    r.check = .error failure ↔ r.ok = false ∧ failure = ⟨r.path, r.code⟩ := by
  rw [check]
  split
  · next hok => simp [hok]
  · next hok => simp [hok, eq_comm]

namespace Task

/-- The task is to be run in a directory, and what is there is none. -/
def Misplaced (t : Task) (sight : Sight) : Prop :=
  t.directory ≠ none ∧ sight = .other

/-- The task is to be run in a directory that cannot be looked at. -/
def Unseen (t : Task) (sight : Sight) (text : String) : Prop :=
  t.directory ≠ none ∧ sight = .unseen text

/-- The ways for a run to end without a result. -/
inductive Interrupted (t : Task) (sight : Sight) : Outcome → Interruption → Prop
  | refused (text : String) : Interrupted t sight (.refused text) (.refused text)
  | unseen {fault : StartFault} {text : String} (h : t.Unseen sight text) :
      Interrupted t sight (.failed fault) (.unseen text)

def tolerating (t : Task) (codes : List Int) : Task :=
  { t with tolerated := t.accepted ++ codes }

variable {t : Task} {allowed : List Int} {code : Int} {fault : StartFault} {sight : Sight}
  {outcome : Outcome} {cause : Interruption} {r : TaskResult}

theorem mem_accepted_iff : code ∈ t.accepted ↔ code = 0 ∨ code ∈ t.tolerated := by
  rw [accepted, List.mem_mergeSort, List.mem_eraseDups, List.mem_cons]

theorem accepting_eq_true_iff :
    t.accepting allowed code = true ↔ code ∈ t.accepted ∨ code ∈ allowed := by
  rw [mem_accepted_iff]
  simp [accepting, accepts]

theorem startFailure_of_misplaced (h : t.Misplaced sight) (fault : StartFault) :
    ∃ p : Path, t.startFailure sight fault =
      .ok (127, s!"working directory missing or not a directory: {p.text}") := by
  obtain ⟨hdirectory, rfl⟩ := h
  obtain ⟨p, hp⟩ := Option.ne_none_iff_exists'.mp hdirectory
  exact ⟨p, by simp only [startFailure, hp]; rfl⟩

theorem startFailure_of_unseen {text : String} (h : t.Unseen sight text) (fault : StartFault) :
    t.startFailure sight fault = .error (.unseen text) := by
  obtain ⟨hdirectory, rfl⟩ := h
  obtain ⟨p, hp⟩ := Option.ne_none_iff_exists'.mp hdirectory
  simp only [startFailure, hp]

theorem startFailure_of_placed (h : ¬ t.Misplaced sight) (hseen : ∀ text, ¬ t.Unseen sight text)
    (fault : StartFault) : t.startFailure sight fault =
      if fault.isNotFound then .ok (127, "executable not found")
      else .ok (126, s!"cannot execute: {fault.shown}") := by
  cases hdirectory : t.directory with
  | none => simp only [startFailure, hdirectory, exitNotFound, exitNotExecutable]
  | some p =>
    have hne : t.directory ≠ none := by simp [hdirectory]
    cases sight with
    | directory => simp only [startFailure, hdirectory, exitNotFound, exitNotExecutable]
    | other => exact absurd ⟨hne, rfl⟩ h
    | unseen text => exact absurd ⟨hne, rfl⟩ (hseen text)

/-- A failed start has a code of its own and a reason, unless its directory cannot be looked at. -/
theorem startFailure_cases (t : Task) (sight : Sight) (fault : StartFault) :
    (∃ text, t.Unseen sight text ∧ t.startFailure sight fault = .error (.unseen text)) ∨
      (∀ text, ¬ t.Unseen sight text) ∧ ∃ code reason,
        t.startFailure sight fault = .ok (code, reason) ∧ (code = 126 ∨ code = 127) ∧
          reason ≠ "" := by
  have hsaid (first later : String) (h : first ≠ "") : first ++ later ≠ "" :=
    fun hempty => h (String.append_eq_empty_iff.mp hempty).1
  by_cases hunseen : ∃ text, t.Unseen sight text
  · obtain ⟨text, h⟩ := hunseen
    exact .inl ⟨text, h, startFailure_of_unseen h fault⟩
  · have hseen : ∀ text, ¬ t.Unseen sight text := not_exists.mp hunseen
    refine .inr ⟨hseen, ?_⟩
    by_cases h : t.Misplaced sight
    · obtain ⟨p, hp⟩ := startFailure_of_misplaced h fault
      exact ⟨_, _, hp, .inr rfl, hsaid _ _ (by decide)⟩
    · rw [startFailure_of_placed h hseen]
      split
      · exact ⟨_, _, rfl, .inr rfl, by decide⟩
      · exact ⟨_, _, rfl, .inl rfl, hsaid _ _ (by decide)⟩

theorem resultOf_failed {reason : String} (h : t.startFailure sight fault = .ok (code, reason)) :
    t.resultOf allowed sight (.failed fault) =
      .ok ⟨t.executable.path, code, t.accepting allowed code, reason⟩ := by
  rw [resultOf, h]
  rfl

theorem exists_of_resultOf_failed (h : t.resultOf allowed sight (.failed fault) = .ok r) :
    ∃ code reason, t.startFailure sight fault = .ok (code, reason) ∧ reason ≠ "" ∧
      r = ⟨t.executable.path, code, t.accepting allowed code, reason⟩ := by
  rcases t.startFailure_cases sight fault with
    ⟨_, -, hfault⟩ | ⟨-, code, reason, hfault, -, hsaid⟩
  · rw [resultOf, hfault] at h
    cases h
  · rw [resultOf_failed hfault] at h
    exact ⟨code, reason, hfault, hsaid, (Except.ok.inj h).symm⟩

theorem resultOf_eq_error_iff :
    t.resultOf allowed sight outcome = .error cause ↔ t.Interrupted sight outcome cause := by
  constructor
  · intro h
    cases outcome with
    | exited code => cases h
    | refused text =>
      cases h
      exact .refused text
    | failed fault =>
      rcases t.startFailure_cases sight fault with ⟨text, hunseen, hfault⟩ | ⟨-, _, _, hfault, -⟩
      · rw [resultOf, hfault] at h
        cases h
        exact .unseen hunseen
      · rw [resultOf_failed hfault] at h
        cases h
  · rintro (text | hunseen)
    · rfl
    · rw [resultOf, startFailure_of_unseen hunseen]
      rfl

/-- A code that stands for a failed start is a success where the run accepts it, like any other. -/
theorem ok_of_resultOf (h : t.resultOf allowed sight outcome = .ok r) :
    r.ok = t.accepting allowed r.code := by
  cases outcome with
  | exited code =>
    cases h
    rfl
  | refused text => cases h
  | failed fault =>
    obtain ⟨code, reason, -, -, rfl⟩ := exists_of_resultOf_failed h
    rfl

/-- What is allowed decides about success and about nothing else. -/
theorem resultOf_more (more : List Int) (h : t.resultOf allowed sight outcome = .ok r) :
    t.resultOf more sight outcome = .ok { r with ok := t.accepting more r.code } := by
  cases outcome with
  | exited code =>
    cases h
    rfl
  | refused text => cases h
  | failed fault =>
    obtain ⟨code, reason, hfault, -, rfl⟩ := exists_of_resultOf_failed h
    exact resultOf_failed hfault

theorem accepting_tolerating (t : Task) (allowed : List Int) (code : Int) :
    (t.tolerating allowed).accepting [] code = t.accepting allowed code := by
  have hzero : code ∈ (t.tolerating allowed).accepted ↔ code ∈ t.accepted ∨ code ∈ allowed := by
    rw [mem_accepted_iff, tolerating, List.mem_append, mem_accepted_iff, or_assoc, or_self_left]
  rw [Bool.eq_iff_iff, accepting_eq_true_iff, accepting_eq_true_iff, hzero]
  simp

theorem resultOf_tolerating (sight : Sight) (outcome : Outcome) :
    (t.tolerating allowed).resultOf [] sight outcome = t.resultOf allowed sight outcome := by
  cases outcome <;> simp only [resultOf, accepting_tolerating] <;> rfl

theorem endNotices_tolerating (value : Except Interruption TaskResult) (outcome : Outcome) :
    (t.tolerating allowed).endNotices value outcome = t.endNotices value outcome := by
  cases value <;> cases outcome <;> rfl

theorem run_tolerating {σ : Type} (host : Host) (processes : Processes σ) (s : σ) :
    (t.tolerating allowed).run host processes [] s = t.run host processes allowed s := by
  have hsight (state : σ) : (t.tolerating allowed).sight processes state =
      t.sight processes state := rfl
  have hspawn : (t.tolerating allowed).spawn host = t.spawn host := rfl
  simp only [run, resultOf_tolerating, hsight, hspawn, endNotices_tolerating]
  rfl

/-- The result tells how the process ended, or that it was not started and why. There is one unless
the request was refused, or the directory of a process that did not start could not be looked at. -/
structure Classifies (t : Task) (allowed : List Int) (sight : Sight) (outcome : Outcome)
    (value : Except Interruption TaskResult) : Prop where
  path : ∀ r, value = .ok r → r.path = t.executable.path
  exited : ∀ code, outcome = .exited code → ∃ r, value = .ok r ∧ r.code = code ∧
    (r.ok = true ↔ code = 0 ∨ code ∈ t.tolerated ∨ code ∈ allowed)
  signalled : ∀ code, outcome = .exited code → code < 0 → ∃ r, value = .ok r ∧
    (r.ok = true ↔ code ∈ t.tolerated ∨ code ∈ allowed)
  misplaced : ∀ fault, outcome = .failed fault → t.Misplaced sight →
    ∃ r, value = .ok r ∧ r.code = 127
  notFound : ∀ fault, outcome = .failed fault → ¬ t.Misplaced sight →
    (∀ text, ¬ t.Unseen sight text) → fault.isNotFound = true → ∃ r, value = .ok r ∧ r.code = 127
  notExecutable : ∀ fault, outcome = .failed fault → ¬ t.Misplaced sight →
    (∀ text, ¬ t.Unseen sight text) → fault.isNotFound = false → ∃ r, value = .ok r ∧ r.code = 126
  interrupted_iff : ∀ cause, value = .error cause ↔ t.Interrupted sight outcome cause
  reason_iff : ∀ r, value = .ok r → (r.reason ≠ "" ↔ ∃ fault, outcome = .failed fault)

theorem classifies_exited (t : Task) (allowed : List Int) (sight : Sight) (code : Int) :
    Classifies t allowed sight (.exited code) (t.resultOf allowed sight (.exited code)) := by
  have hok : t.accepting allowed code = true ↔
      code = 0 ∨ code ∈ t.tolerated ∨ code ∈ allowed := by
    rw [accepting_eq_true_iff, mem_accepted_iff, or_assoc]
  refine ⟨?_, ?_, ?_, by simp, by simp, by simp, fun cause => resultOf_eq_error_iff, ?_⟩
  · rintro _ ⟨⟩
    rfl
  · rintro _ ⟨⟩
    exact ⟨_, rfl, rfl, hok⟩
  · rintro _ ⟨⟩ hneg
    exact ⟨_, rfl, hok.trans (or_iff_right (by omega))⟩
  · rintro _ ⟨⟩
    simp

theorem classifies_failed (t : Task) (allowed : List Int) (sight : Sight) (fault : StartFault) :
    Classifies t allowed sight (.failed fault) (t.resultOf allowed sight (.failed fault)) := by
  refine ⟨?_, by simp, by simp, ?_, ?_, ?_, fun cause => resultOf_eq_error_iff, ?_⟩
  · intro r h
    obtain ⟨code, reason, -, -, rfl⟩ := exists_of_resultOf_failed h
    rfl
  · rintro _ ⟨⟩ h
    obtain ⟨p, hp⟩ := startFailure_of_misplaced h fault
    exact ⟨_, resultOf_failed hp, rfl⟩
  · rintro _ ⟨⟩ h hseen hfound
    exact ⟨_, resultOf_failed ((startFailure_of_placed h hseen fault).trans (if_pos hfound)), rfl⟩
  · rintro _ ⟨⟩ h hseen hfound
    refine ⟨_, resultOf_failed ((startFailure_of_placed h hseen fault).trans (if_neg ?_)), rfl⟩
    simp [hfound]
  · intro r h
    obtain ⟨code, reason, -, hsaid, rfl⟩ := exists_of_resultOf_failed h
    exact iff_of_true hsaid ⟨fault, rfl⟩

theorem classifies_resultOf (t : Task) (allowed : List Int) (sight : Sight) (outcome : Outcome) :
    Classifies t allowed sight outcome (t.resultOf allowed sight outcome) := by
  cases outcome with
  | exited code => exact t.classifies_exited allowed sight code
  | failed fault => exact t.classifies_failed allowed sight fault
  | refused text =>
    exact ⟨by simp [resultOf], by simp, by simp, by simp, by simp, by simp,
      fun cause => resultOf_eq_error_iff, by simp [resultOf]⟩

/-- Where requests are not refused and every directory can be looked at, every run has a result. -/
theorem Classifies.exists_result {value : Except Interruption TaskResult}
    (h : Classifies t allowed sight outcome value) (hasked : ∀ text, outcome ≠ .refused text)
    (hseen : ∀ text, ¬ t.Unseen sight text) : ∃ r, value = .ok r := by
  cases hvalue : value with
  | ok r => exact ⟨r, rfl⟩
  | error cause =>
    cases (h.interrupted_iff cause).mp hvalue with
    | refused text => exact absurd rfl (hasked text)
    | unseen hunseen => exact absurd hunseen (hseen _)

theorem accepting_mono {more : List Int} (hsub : allowed ⊆ more)
    (h : t.accepting allowed code = true) : t.accepting more code = true := by
  rw [accepting_eq_true_iff] at h ⊢
  exact h.imp_right fun hmem => hsub hmem

end Task

end FrameworkForge

import FrameworkForge.Proofs.Checks
import Mathlib.Tactic.Tauto

/-! Chains of checks that end in an error which is not reported. Such an error comes out of a link
of the chain, and only when the links before it have passed. -/

namespace FrameworkForge

variable {α β γ δ : Type}

/-- The checks end in an error that the command line does not expect. -/
def Escapes (x : Except Error α) : Prop :=
  ∃ e, x = .error e ∧ e.isReported = false

namespace Escapes

open Checks

theorem error_iff {e : Error} : Escapes (.error e : Except Error α) ↔ e.isReported = false := by
  simp [Escapes]

theorem of_error {e : Error} (h : e.isReported = false) : Escapes (.error e : Except Error α) :=
  ⟨e, rfl, h⟩

theorem not_error {e : Error} (h : e.isReported = true) :
    ¬ Escapes (.error e : Except Error α) := by
  simp [error_iff, h]

theorem not_ok (a : α) : ¬ Escapes (.ok a) := by
  simp [Escapes]

theorem bind_iff {x : Except Error α} {f : α → Except Error β} :
    Escapes (x >>= f) ↔ Escapes x ∨ ∃ a, x = .ok a ∧ Escapes (f a) := by
  cases x with
  | error e => simp [Escapes, bind, Except.bind]
  | ok a => simp [Escapes, bind, Except.bind]

/-- What follows a link need not depend on what comes out of it. -/
theorem bind_congr {x : Except Error α} {f : α → Except Error β} {P : Prop}
    (h : ∀ a, Escapes (f a) ↔ P) : Escapes (x >>= f) ↔ Escapes x ∨ (∃ a, x = .ok a) ∧ P := by
  simp [bind_iff, h]

theorem bind_ok_iff {x : Except Error α} {f : α → Except Error β} {a : α} (h : x = .ok a) :
    Escapes (x >>= f) ↔ Escapes (f a) := by
  simp [bind_iff, h, not_ok]

theorem bind_left_iff {x : Except Error α} {f : α → Except Error β} (h : ∀ a, ¬ Escapes (f a)) :
    Escapes (x >>= f) ↔ Escapes x := by
  simp [bind_iff, h]

theorem bind_right_iff {x : Except Error α} {f : α → Except Error β} (h : ¬ Escapes x) :
    Escapes (x >>= f) ↔ ∃ a, x = .ok a ∧ Escapes (f a) := by
  simp [bind_iff, h]

theorem bind_pure_iff {x : Except Error α} {f : α → β} :
    Escapes (x >>= fun a => pure (f a)) ↔ Escapes x :=
  bind_left_iff fun _ => not_ok _

theorem not_bind {x : Except Error α} {f : α → Except Error β} (hx : ¬ Escapes x)
    (hf : ∀ a, ¬ Escapes (f a)) : ¬ Escapes (x >>= f) :=
  mt (bind_left_iff hf).mp hx

theorem mapM_cons_iff {f : α → Except Error β} {x : α} {xs : List α} :
    Escapes ((x :: xs).mapM f) ↔ Escapes (f x) ∨ (∃ b, f x = .ok b) ∧ Escapes (xs.mapM f) := by
  rw [List.mapM_cons]
  exact bind_congr fun _ => bind_pure_iff

/-- Checks one after another, with something behind them, are a traversal. -/
theorem cons_iff {f : α → Except Error β} {x : α} {xs : List α} {P : Prop} :
    (Escapes (f x) ∨ (∃ b, f x = .ok b) ∧
      (Escapes (xs.mapM f) ∨ (∀ y ∈ xs, ∃ b, f y = .ok b) ∧ P)) ↔
      Escapes ((x :: xs).mapM f) ∨ (∀ y ∈ x :: xs, ∃ b, f y = .ok b) ∧ P := by
  rw [mapM_cons_iff, List.forall_mem_cons]
  tauto

theorem nil_iff {f : α → Except Error β} {P : Prop} :
    P ↔ Escapes (([] : List α).mapM f) ∨ (∀ y ∈ ([] : List α), ∃ b, f y = .ok b) ∧ P := by
  simp [pure, Except.pure, not_ok]

/-- The first item on which a check does not pass ends the traversal. -/
theorem mapM_iff {f : α → Except Error β} {xs : List α} :
    Escapes (xs.mapM f) ↔ ∃ before x after, xs = before ++ x :: after ∧
      (∀ earlier ∈ before, ∃ b, f earlier = .ok b) ∧ Escapes (f x) := by
  induction xs with
  | nil => simp [pure, Except.pure, not_ok]
  | cons x xs ih =>
    rw [mapM_cons_iff, ih]
    constructor
    · rintro (hx | ⟨hx, before, y, after, rfl, hbefore, hy⟩)
      · exact ⟨[], x, xs, rfl, by simp, hx⟩
      · exact ⟨x :: before, y, after, rfl, List.forall_mem_cons.mpr ⟨hx, hbefore⟩, hy⟩
    · rintro ⟨_ | ⟨_, before⟩, y, after, hxs, hbefore, hy⟩
      · obtain ⟨rfl, rfl⟩ := List.cons.inj hxs
        exact .inl hy
      · obtain ⟨rfl, rfl⟩ := List.cons.inj hxs
        obtain ⟨hx, hbefore⟩ := List.forall_mem_cons.mp hbefore
        exact .inr ⟨hx, before, y, after, rfl, hbefore, hy⟩

/-- Putting the results in another form does not matter, nor does getting the items of a check out
of others. -/
theorem mapM_map_iff {f : α → Except Error β} {item : γ → α} {form : γ → β → δ} {xs : List γ} :
    Escapes ((xs.map item).mapM f) ↔
      Escapes (xs.mapM fun x => do return form x (← f (item x))) := by
  induction xs with
  | nil => simp [pure, Except.pure, not_ok]
  | cons x xs ih =>
    have hpasses : (∃ b, f (item x) = .ok b) ↔
        ∃ d, (do return form x (← f (item x))) = (.ok d : Except Error δ) := by
      cases f (item x) <;> simp [bind, Except.bind, pure, Except.pure]
    rw [List.map_cons, mapM_cons_iff, mapM_cons_iff, ih, hpasses, bind_pure_iff]

theorem not_mapM {f : α → Except Error β} (h : ∀ x, ¬ Escapes (f x)) (xs : List α) :
    ¬ Escapes (xs.mapM f) := by
  simp [mapM_iff, h]

theorem not_forM {f : α → Except Error Unit} (h : ∀ x, ¬ Escapes (f x)) (xs : List α) :
    ¬ Escapes (xs.forM f) := by
  induction xs with
  | nil => exact not_ok ()
  | cons x xs ih => exact not_bind (h x) fun _ => ih

theorem forM_bind_iff {f : α → Except Error Unit} {xs : List α} {g : Unit → Except Error β}
    (h : ∀ x, ¬ Escapes (f x)) :
    Escapes (xs.forM f >>= g) ↔ (∀ x ∈ xs, f x = .ok ()) ∧ Escapes (g ()) := by
  rw [bind_right_iff (not_forM h xs), ← forM_eq_ok_iff]
  exact ⟨fun ⟨_, hx, hg⟩ => ⟨hx, hg⟩, fun ⟨hx, hg⟩ => ⟨(), hx, hg⟩⟩

end Escapes

end FrameworkForge

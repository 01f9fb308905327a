/-
Computing step by step, where a step can fail.

A step that succeeds is followed by the next one, and a step that fails is the last.
-/
import Mathlib.Tactic.Common

namespace Atelier

variable {ε σ α β : Type}

lemma ok_bind (a : α) (f : α → Except ε β) : (Except.ok a >>= f) = f a := rfl

/-- What is computed step by step succeeds in each step. -/
lemma exists_of_bind_eq_ok {x : Except ε α} {f : α → Except ε β} {b : β}
    (h : x >>= f = .ok b) : ∃ a, x = .ok a ∧ f a = .ok b := by
  cases x with
  | error e => cases h
  | ok a => exact ⟨a, rfl, h⟩

/-! ## Steps that change a state -/

section

variable {s s' : σ}

lemma run_bind_of_run {x : StateM σ α} {next : α → StateM σ β} {a : α} (h : x.run s = (a, s')) :
    (x >>= next).run s = (next a).run s' := by
  rw [StateT.run_bind, h]
  rfl

/-- Steps that only look at the state leave it as it is, however many there are. -/
lemma run_mapM_of_run {f : α → StateM σ β} {g : α → β} (h : ∀ a, (f a).run s = (g a, s))
    (l : List α) : (l.mapM f).run s = (l.map g, s) := by
  induction l with
  | nil => rfl
  | cons a l ih =>
    rw [List.mapM_cons, List.map_cons]
    exact (run_bind_of_run (h a)).trans (run_bind_of_run ih)

/-! ## Steps that change a state and can fail -/

variable {x : ExceptT ε (StateM σ) α} {next : α → ExceptT ε (StateM σ) β}

lemma run_bind_of_ok {a : α} (h : x.run.run s = (.ok a, s')) :
    (x >>= next).run.run s = (next a).run.run s' := by
  rw [ExceptT.run_bind]
  exact run_bind_of_run h

lemma run_bind_of_error {e : ε} (h : x.run.run s = (.error e, s')) :
    (x >>= next).run.run s = (.error e, s') := by
  rw [ExceptT.run_bind]
  exact run_bind_of_run h

end

end Atelier

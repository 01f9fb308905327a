/-
Turning a shape again and again, in exact arithmetic.

Two angles are wrapped to the same one exactly if they differ by whole turns (`wrapAngle_eq_iff`),
so wrapping early changes nothing.  A shape that is turned by several angles is therefore turned by
their sum, in whichever order they come (`turned_eq_rotate_sum`).  Only a shape that is not turned
at all can keep a rotation that no turning would leave (`not_always_wrapped`).
-/
import Mathlib.Algebra.Order.ToIntervalMod
import Atelier.Proofs.Shape.NormalForm

namespace Atelier

/-! ## Angles up to whole turns -/

lemma wrapAngle_eq_toIcoMod (θ : ℝ) : wrapAngle θ = toIcoMod Real.two_pi_pos 0 θ := by
  rw [wrapAngle_eq, toIcoMod_eq_fract_mul, mul_comm]

/-- Angles that differ by whole turns are wrapped to the same angle, and others are not. -/
lemma wrapAngle_eq_iff {θ φ : ℝ} : wrapAngle θ = wrapAngle φ ↔ θ ≡ φ [PMOD 2 * Real.pi] := by
  rw [wrapAngle_eq_toIcoMod, wrapAngle_eq_toIcoMod, toIcoMod_inj]

lemma wrapAngle_modEq (θ : ℝ) : wrapAngle θ ≡ θ [PMOD 2 * Real.pi] :=
  wrapAngle_eq_iff.1 (wrapAngle_of_mem_Ico (wrapAngle_mem_Ico θ))

namespace Shape

variable {s : Shape ℝ} {δ : ℝ} {deltas order : List ℝ}

/-! ## Turning twice -/

/-- Turning by two angles is turning by their sum. -/
lemma rotate_rotate (s : Shape ℝ) (δ ε : ℝ) : (s.rotate δ).rotate ε = s.rotate (δ + ε) := by
  have hangle : wrapAngle (wrapAngle (s.rotation + δ) + ε) = wrapAngle (s.rotation + (δ + ε)) := by
    rw [← add_assoc, wrapAngle_eq_iff]
    exact (wrapAngle_modEq _).add_right ε
  rw [rotate, rotate, rotate, setRotation, setRotation, setRotation, hangle]

/-- Whole turns leave a shape whose rotation is wrapped. -/
lemma rotate_eq_self (h : s.rotation ∈ Set.Ico 0 (2 * Real.pi)) (hδ : δ ≡ 0 [PMOD 2 * Real.pi]) :
    s.rotate δ = s := by
  have hangle : wrapAngle (s.rotation + δ) = s.rotation := by
    rw [← wrapAngle_of_mem_Ico h, wrapAngle_eq_iff, wrapAngle_of_mem_Ico h]
    simpa using hδ.add_left s.rotation
  rw [rotate, setRotation, hangle]

/-! ## Turning by many angles -/

/-- The shape turned by each of some angles, one after the other. -/
noncomputable def turned (s : Shape ℝ) (deltas : List ℝ) : Shape ℝ :=
  deltas.foldl rotate s

/-- After a first turn all others can be done at once. -/
lemma turned_rotate (s : Shape ℝ) (δ : ℝ) (deltas : List ℝ) :
    (s.rotate δ).turned deltas = s.rotate (δ + deltas.sum) := by
  induction deltas generalizing δ with
  | nil => rw [List.sum_nil, add_zero, turned, List.foldl_nil]
  | cons ε deltas ih =>
    calc (s.rotate δ).turned (ε :: deltas) = (s.rotate (δ + ε)).turned deltas := by
          rw [turned, List.foldl_cons, rotate_rotate, turned]
      _ = s.rotate (δ + (ε :: deltas).sum) := by rw [ih, List.sum_cons, add_assoc]

/-- A shape with a wrapped rotation is as good as turned already. -/
lemma turned_of_ne_nil_or_mem_Ico (h : deltas ≠ [] ∨ s.rotation ∈ Set.Ico 0 (2 * Real.pi)) :
    s.turned deltas = s.rotate deltas.sum := by
  rcases h with hne | hwrapped
  · obtain ⟨δ, deltas, rfl⟩ := List.exists_cons_of_ne_nil hne
    exact (turned_rotate s δ deltas).trans (by rw [List.sum_cons])
  · have hstart : s.rotate 0 = s := rotate_eq_self hwrapped AddCommGroup.modEq_rfl
    have hturned := turned_rotate s 0 deltas
    rwa [hstart, zero_add] at hturned

/-- Turning a shape by some angles, at least by one or from a wrapped rotation, is turning it by
their sum, in whichever order they come.  This changes its rotation only, to the angle within one
turn that exceeds the old rotation by the sum and whole turns.  So a shape in normal form is restored
by angles that add up to whole turns. -/
theorem turned_eq_rotate_sum (s : Shape ℝ) (deltas : List ℝ) :
    (deltas ≠ [] ∨ s.rotation ∈ Set.Ico 0 (2 * Real.pi) →
      ∀ order : List ℝ, order.Perm deltas → s.turned order = s.rotate deltas.sum) ∧
    (∃ θ ∈ Set.Ico 0 (2 * Real.pi), θ ≡ s.rotation + deltas.sum [PMOD 2 * Real.pi] ∧
      s.rotate deltas.sum = { s with rotation := θ }) ∧
    (s.InNormalForm → deltas.sum ≡ 0 [PMOD 2 * Real.pi] →
      ∀ order : List ℝ, order.Perm deltas → s.turned order = s) := by
  have hsum : deltas ≠ [] ∨ s.rotation ∈ Set.Ico 0 (2 * Real.pi) →
      ∀ order : List ℝ, order.Perm deltas → s.turned order = s.rotate deltas.sum := by
    intro h order hperm
    have horder : order ≠ [] ∨ s.rotation ∈ Set.Ico 0 (2 * Real.pi) :=
      h.imp_left fun hne hnil => hne (hnil ▸ hperm).nil_eq.symm
    rw [turned_of_ne_nil_or_mem_Ico horder, hperm.sum_eq]
  refine ⟨hsum, ?_, ?_⟩
  · exact ⟨wrapAngle (s.rotation + deltas.sum), wrapAngle_mem_Ico _, wrapAngle_modEq _, rfl⟩
  · intro hnormal hwhole order hperm
    rw [hsum (.inr hnormal.rotation) order hperm, rotate_eq_self hnormal.rotation hwhole]

/-- A single pixel that is turned by nine radians, which is more than a full turn. -/
noncomputable def overturned : Shape ℝ :=
  ⟨.ofNat 1, .rectangle, 0, 0, 1, 1, 9, .descending, .default⟩

lemma two_pi_lt_rotation_overturned : 2 * Real.pi < overturned.rotation := by
  have hpi := Real.pi_le_four
  show 2 * Real.pi < 9
  linarith

/-- The pixel is turned back and forth in two orders, and its normal form by angles that pass a full
turn and come back. -/
theorem turned_eq_rotate_sum_overturned :
    overturned.turned [-9, 2, 8] = overturned.turned [8, -9, 2] ∧
      overturned.normalize.InNormalForm ∧
      overturned.normalize.turned [5, Real.pi, 1, Real.pi, -6] = overturned.normalize := by
  refine ⟨?_, inNormalForm_normalize _, ?_⟩
  · have hne : ([8, -9, 2] : List ℝ) ≠ [] := List.cons_ne_nil _ _
    have hperm : [-9, 2, 8].Perm ([8, -9, 2] : List ℝ) := by
      show ([-9, 2] ++ [8] : List ℝ).Perm ([8] ++ [-9, 2])
      exact List.perm_append_comm
    obtain ⟨hsum, -⟩ := turned_eq_rotate_sum overturned [8, -9, 2]
    rw [hsum (.inl hne) _ hperm, hsum (.inl hne) _ .rfl]
  · have hturn : [5, Real.pi, 1, Real.pi, -6].sum = 2 * Real.pi := by
      simp only [List.sum_cons, List.sum_nil]
      ring
    have hwhole : [5, Real.pi, 1, Real.pi, -6].sum ≡ 0 [PMOD 2 * Real.pi] := by
      rw [hturn]
      exact AddCommGroup.self_modEq_zero
    obtain ⟨-, -, hrestored⟩ := turned_eq_rotate_sum overturned.normalize
      [5, Real.pi, 1, Real.pi, -6]
    exact hrestored (inNormalForm_normalize _) hwhole _ .rfl

/-- Turning a shape by no angle at all is not turning it by their sum, which wraps its rotation. -/
theorem not_always_wrapped :
    ¬ ∀ (s : Shape ℝ) (deltas : List ℝ), s.turned deltas = s.rotate deltas.sum := by
  intro h
  have hwrapped : overturned.rotation ∈ Set.Ico 0 (2 * Real.pi) := by
    have hsame : overturned = overturned.rotate 0 := h overturned []
    rw [hsame]
    exact wrapAngle_mem_Ico _
  exact two_pi_lt_rotation_overturned.not_gt hwrapped.2

end Shape

end Atelier

/-
A shape and its normal form are one figure.

Where a shape is hit and what is drawn of it depends on its box, in which the signs of its size do
not count, and on its rotation, in which whole turns do not count (`Recast`).  So in exact
arithmetic normalizing a shape can neither be seen nor be felt.  A line that is dragged out from
one point to another ends at these two, in whichever direction it was dragged
(`endPair_ofDrag`).
-/
import Mathlib.Data.Sym.Sym2
import Atelier.Proofs.Drawing.Calls
import Atelier.Proofs.Geometry.Exact
import Atelier.Shape.Handles
import Atelier.Shape.Outline

namespace Atelier

/-! ## Whole turns -/

namespace Point

variable (p c : Point ℝ) (θ : ℝ) (k : ℤ)

lemma rotate_add_turns : p.rotate c (θ + k * (2 * Real.pi)) = p.rotate c θ := by
  ext
  · rw [rotate_x, rotate_x, Real.sin_add_int_mul_two_pi, Real.cos_add_int_mul_two_pi]
  · rw [rotate_y, rotate_y, Real.sin_add_int_mul_two_pi, Real.cos_add_int_mul_two_pi]

lemma rotate_neg_add_turns : p.rotate c (-(θ + k * (2 * Real.pi))) = p.rotate c (-θ) := by
  have hangle : -(θ + k * (2 * Real.pi)) = -θ + (-k : ℤ) * (2 * Real.pi) := by
    push_cast
    ring
  rw [hangle, rotate_add_turns]

end Point

/-- Wrapping an angle takes whole turns off it. -/
lemma exists_wrapAngle_eq (θ : ℝ) : ∃ k : ℤ, wrapAngle θ = θ + k * (2 * Real.pi) := by
  refine ⟨-⌊θ / (2 * Real.pi)⌋, ?_⟩
  have hwhole : 2 * Real.pi * (θ / (2 * Real.pi)) = θ := mul_div_cancel₀ θ Real.two_pi_pos.ne'
  rw [wrapAngle_eq, Int.fract, mul_sub, hwhole, Int.cast_neg]
  ring

/-! ## Drawings of which single calls are altered -/

section

variable {α β : Type} {f : Call α → Call β}

/-- A surface treats an altered call as the original one if it may refuse both or neither. -/
lemma Recorder.take_map (hf : ∀ c, (f c).fallible = c.fallible) (r : Recorder α) (c : Call α) :
    Recorder.take ⟨r.calls.map f, r.failAt⟩ (f c) =
      (⟨(r.take c).1.calls.map f, (r.take c).1.failAt⟩, (r.take c).2) := by
  unfold Recorder.take
  rw [hf c]
  split
  · obtain ⟨calls, failAt⟩ := r
    match failAt with
    | none => simp
    | some 0 => simp
    | some 1 => simp
    | some (n + 2) => simp
  · simp

lemma run_play_map (hf : ∀ c, (f c).fallible = c.fallible) (cs : List (Call α))
    (r : Recorder α) :
    (play (cs.map f) : Recording β Unit).run ⟨r.calls.map f, r.failAt⟩ =
      (((play cs : Recording α Unit).run r).1.mapError f,
        ⟨((play cs : Recording α Unit).run r).2.calls.map f,
          ((play cs : Recording α Unit).run r).2.failAt⟩) := by
  induction cs generalizing r with
  | nil => rfl
  | cons c cs ih =>
    have hcall := run_call c r
    have hcall' := run_call (f c) ⟨r.calls.map f, r.failAt⟩
    rw [Recorder.take_map hf] at hcall'
    rw [List.map_cons, play_cons, play_cons]
    cases hfailed : (r.take c).2 with
    | true =>
      rw [hfailed, if_pos rfl] at hcall hcall'
      rw [run_bind_of_run_eq_error hcall, run_bind_of_run_eq_error hcall']
      rfl
    | false =>
      rw [hfailed, if_neg Bool.false_ne_true] at hcall hcall'
      rw [run_bind_of_run_eq_ok hcall, run_bind_of_run_eq_ok hcall', ih]

/-- A drawing is broken off at the same call, whether its calls are altered or not. -/
lemma record_play_map (hf : ∀ c, (f c).fallible = c.fallible) (failAt : Option ℕ)
    (cs : List (Call α)) :
    record failAt (play (cs.map f)) =
      ((record failAt (play cs)).1.map f, (record failAt (play cs)).2.map f) := by
  have hrun := run_play_map hf cs { failAt }
  rw [List.map_nil] at hrun
  unfold record
  rw [hrun]
  cases (play cs : Recording α Unit).run { failAt } with
  | mk outcome r => cases outcome <;> rfl

end

/-- The call with `k` whole turns more, if it turns the axes. -/
noncomputable def Call.addTurns (k : ℤ) : Call ℝ → Call ℝ
  | .rotate angle => .rotate (angle + k * Scalar.turn)
  | c => c

lemma Call.fallible_addTurns (k : ℤ) (c : Call ℝ) : (c.addTurns k).fallible = c.fallible := by
  cases c <;> rfl

namespace Shape

/-! ## Figures -/

/-- Two shapes that are the same on the surface: they have the same places, are hit at the same
points, and are drawn with the same calls but for whole turns of the axes, on any surface and
however many calls it grants. -/
structure SameFigure (s t : Shape ℝ) : Prop where
  bounds : t.bounds = s.bounds
  center : t.center = s.center
  contains (p : Point ℝ) : t.contains p = s.contains p
  lineEnds : t.lineEnds = s.lineEnds
  triangleCorners : t.triangleCorners = s.triangleCorners
  rotatedAnchor (anchor : Anchor) : t.rotatedAnchor anchor = s.rotatedAnchor anchor
  handleAt? (p : Point ℝ) : t.handleAt? p = s.handleAt? p
  rotationHandle : t.rotationHandle = s.rotationHandle
  record_draw : ∃ k : ℤ, ∀ failAt, record failAt t.draw =
    ((record failAt s.draw).1.map (Call.addTurns k), (record failAt s.draw).2.map (Call.addTurns k))

/-- The second shape is the first one with another origin and signs of its box, and with `k` whole
turns more. -/
structure Recast (k : ℤ) (s t : Shape ℝ) : Prop where
  kind : t.kind = s.kind
  slope : t.slope = s.slope
  paint : t.paint = s.paint
  bounds : t.bounds = s.bounds
  rotation : t.rotation = s.rotation + k * (2 * Real.pi)

namespace Recast

variable {k : ℤ} {s t : Shape ℝ}

lemma rotate (h : Recast k s t) (p c : Point ℝ) :
    p.rotate c t.rotation = p.rotate c s.rotation := by
  rw [h.rotation, Point.rotate_add_turns]

lemma rotate_neg (h : Recast k s t) (p c : Point ℝ) :
    p.rotate c (-t.rotation) = p.rotate c (-s.rotation) := by
  rw [h.rotation, Point.rotate_neg_add_turns]

lemma center (h : Recast k s t) : t.center = s.center := by
  rw [Shape.center, Shape.center, h.bounds]

lemma lineEnds (h : Recast k s t) : t.lineEnds = s.lineEnds := by
  simp only [Shape.lineEnds, h.bounds, h.slope, h.rotate]

lemma triangleCorners (h : Recast k s t) : t.triangleCorners = s.triangleCorners := by
  simp only [Shape.triangleCorners, h.bounds, h.rotate]

lemma rotatedAnchor (h : Recast k s t) (anchor : Anchor) :
    t.rotatedAnchor anchor = s.rotatedAnchor anchor := by
  simp only [Shape.rotatedAnchor, anchorPosition, h.bounds, h.center, h.rotate]

lemma rotationHandle (h : Recast k s t) : t.rotationHandle = s.rotationHandle := by
  simp only [Shape.rotationHandle, h.bounds, h.rotate]

lemma contains (h : Recast k s t) (p : Point ℝ) : t.contains p = s.contains p := by
  unfold Shape.contains
  rw [h.kind]
  cases s.kind with
  | rectangle => simp only [Box.containsRotated, h.bounds, h.rotate_neg]
  | ellipse => simp only [ellipseContains, h.bounds, h.rotate_neg]
  | triangle => simp only [triangleContains, h.bounds, h.triangleCorners]
  | line => simp only [h.lineEnds]

/-- Only the call that turns the axes looks at the angle itself. -/
lemma calls_draw (h : Recast k s t) : calls t.draw = (calls s.draw).map (Call.addTurns k) := by
  have hprimitive : (calls s.drawPrimitive).map (Call.addTurns k) = calls t.drawPrimitive := by
    unfold drawPrimitive
    rw [h.kind, h.bounds, h.slope]
    cases s.kind with
    | line => cases s.slope <;> rfl
    | _ => rfl
  simp only [draw, enterFrame, calls_bind, calls_call, List.map_append, hprimitive, h.center,
    h.rotation, h.paint]
  rfl

lemma sameFigure (h : Recast k s t) : s.SameFigure t where
  bounds := h.bounds
  center := h.center
  contains := h.contains
  lineEnds := h.lineEnds
  triangleCorners := h.triangleCorners
  rotatedAnchor := h.rotatedAnchor
  handleAt? p := by simp only [Shape.handleAt?, h.rotatedAnchor]
  rotationHandle := h.rotationHandle
  record_draw := by
    refine ⟨k, fun failAt => ?_⟩
    rw [t.draw_eq_play, h.calls_draw, record_play_map (Call.fallible_addTurns k), ← s.draw_eq_play]

end Recast

/-- A normalized box is normal already. -/
lemma bounds_normalize (s : Shape ℝ) : s.normalize.bounds = s.bounds :=
  s.frame.normalized_normalized

lemma exists_recast_normalize (s : Shape ℝ) : ∃ k, Recast k s s.normalize := by
  obtain ⟨k, hk⟩ := exists_wrapAngle_eq s.rotation
  exact ⟨k, ⟨rfl, rfl, rfl, s.bounds_normalize, hk⟩⟩

lemma sameFigure_normalize (s : Shape ℝ) : s.SameFigure s.normalize := by
  obtain ⟨k, h⟩ := s.exists_recast_normalize
  exact h.sameFigure

/-! ## Lines that are dragged out -/

variable (id : ShapeId) (a b : Point ℝ)

lemma bounds_ofDrag (kind : ShapeKind) : (ofDrag id kind a b).bounds = Box.between a b := by
  show Box.between ⟨a.x, a.y⟩ ⟨a.x + (b.x - a.x), a.y + (b.y - a.y)⟩ = Box.between a b
  rw [add_sub_cancel, add_sub_cancel]

lemma lineEnds_of_rotation_eq_zero {s : Shape ℝ} (h : s.rotation = 0) : s.lineEnds =
    match s.slope with
    | .descending => (⟨s.bounds.x, s.bounds.y⟩, ⟨s.bounds.right, s.bounds.bottom⟩)
    | .ascending => (⟨s.bounds.x, s.bounds.bottom⟩, ⟨s.bounds.right, s.bounds.y⟩) := by
  unfold lineEnds
  cases s.slope <;> simp [h]

/-- The edges of a box between two points. -/
lemma edges_between : (Box.between a b).x = min a.x b.x ∧ (Box.between a b).right = max a.x b.x ∧
    (Box.between a b).y = min a.y b.y ∧ (Box.between a b).bottom = max a.y b.y := by
  have hedge (u v : ℝ) : min u v + |v - u| = max u v := by
    rw [← max_sub_min_eq_abs, add_sub_cancel]
  have hcorner : (Box.between a b).x = min a.x b.x ∧ (Box.between a b).y = min a.y b.y :=
    ⟨Scalar.least_real _ _, Scalar.least_real _ _⟩
  refine ⟨hcorner.1, ?_, hcorner.2, ?_⟩
  · rw [← hedge, ← hcorner.1]
    rfl
  · rw [← hedge, ← hcorner.2]
    rfl

/-- The two ends of a line, in no order. -/
def endPair {α : Type} [Scalar α] (s : Shape α) : Sym2 (Point α) :=
  s(s.lineEnds.1, s.lineEnds.2)

/-- The ends of a line are the points between which it was dragged out. -/
lemma endPair_ofDrag : (ofDrag id .line a b).endPair = s(a, b) := by
  obtain ⟨hleft, hright, htop, hbottom⟩ := edges_between a b
  have hrotation : (ofDrag id .line a b).rotation = 0 := Scalar.zero_real
  have hslope : (ofDrag id .line a b).slope =
      if (b.x - a.x) * (b.y - a.y) < 0 then .ascending else .descending := by
    rw [← Scalar.zero_real]
    rfl
  rw [endPair, lineEnds_of_rotation_eq_zero hrotation, bounds_ofDrag, hslope, hleft, hright, htop,
    hbottom]
  -- The sign of the product says whether both coordinates run in the same direction.
  split_ifs with hsign
  · rcases mul_neg_iff.1 hsign with ⟨hx, hy⟩ | ⟨hx, hy⟩
    · have hx' : a.x ≤ b.x := by linarith
      have hy' : b.y ≤ a.y := by linarith
      simp [hx', hy']
    · have hx' : b.x ≤ a.x := by linarith
      have hy' : a.y ≤ b.y := by linarith
      simp [hx', hy', Sym2.eq_swap]
  · rcases mul_nonneg_iff.1 (not_lt.1 hsign) with ⟨hx, hy⟩ | ⟨hx, hy⟩
    · have hx' : a.x ≤ b.x := by linarith
      have hy' : a.y ≤ b.y := by linarith
      simp [hx', hy']
    · have hx' : b.x ≤ a.x := by linarith
      have hy' : b.y ≤ a.y := by linarith
      simp [hx', hy', Sym2.eq_swap]

/-- Normalizing a shape cannot be noticed on the surface, and the line between two points ends at
these points before and after. -/
theorem normalize_unnoticed :
    (∀ s : Shape ℝ, s.SameFigure s.normalize) ∧
      ∀ (id : ShapeId) (a b : Point ℝ), (ofDrag id .line a b).endPair = s(a, b) ∧
        (ofDrag id .line a b).normalize.endPair = s(a, b) := by
  refine ⟨sameFigure_normalize, fun id a b => ⟨endPair_ofDrag id a b, ?_⟩⟩
  have hends := (sameFigure_normalize (ofDrag id .line a b)).lineEnds
  rw [endPair, hends]
  exact endPair_ofDrag id a b

end Shape

end Atelier

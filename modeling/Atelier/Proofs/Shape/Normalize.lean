/-
Normalizing a shape that is normal already.

A shape that has a size of zero or more and is turned by less than a full turn keeps its place
and its angle when it is normalized.  Its size is taken as the difference of two edges, of which
the second was rounded, and may change by that (`Shape.resized_normalize`).
-/
import Atelier.Proofs.Decimal.Remainder
import Atelier.Proofs.Decimal.Sum
import Atelier.Shape.Basic

namespace Atelier

/-! ## Edges -/

section

variable {x w : Float}

/-- Of an edge and one that is not before it, the first is the smaller. -/
lemma least_beq {x y : Float} (hx : x.isFinite = true) (h : x ≤ y) :
    (Scalar.least x y == x) = true := by
  have hself : (x == x) = true := (beq_iff hx hx).2 rfl
  rw [Scalar.least]
  split
  · exact hself
  · rename_i hlt
    have hbeq := beq_of_le_of_not_lt h hlt
    split
    · exact BEq.symm hbeq
    · exact hself

lemma least_add_beq (hx : x.isFinite = true) (hw : w.isFinite = true) (h : 0 ≤ w) :
    (Scalar.least x (x + w) == x) = true :=
  least_beq hx (le_add_of_nonneg hx hw h)

lemma abs_add_sub_beq (hx : x.isFinite = true) (hw : w.isFinite = true) (h : 0 ≤ w) :
    (Scalar.abs (x + w - x) == x + w - x) = true :=
  abs_beq (sub_nonneg_of_le hx (le_add_of_nonneg hx hw h))

end

/-! ## Angles -/

/-- An angle within one turn is left as it is. -/
lemma wrapAngle_of_lt {a : Float} (ha : a.isFinite = true) (hnonneg : 0 ≤ a)
    (hlt : a < Scalar.turn) : wrapAngle a = a := by
  have hturn : (Scalar.turn : Float).isFinite = true := rfl
  have hnonneg' := (le_iff isFinite_zero ha).1 hnonneg
  have hlt' := (lt_iff ha hturn).1 hlt
  rw [exact_zero] at hnonneg'
  have hremainder : remainder a Scalar.turn = a :=
    remainder_of_lt ha hturn (by rwa [abs_of_nonneg hnonneg', abs_of_nonneg (by linarith)])
  have hwrapped : Scalar.remainder a Scalar.turn = a := by
    show (if remainder a Scalar.turn < 0 then _ else _) = a
    rw [hremainder, if_neg]
    rw [lt_iff ha isFinite_zero, exact_zero]
    exact not_lt.2 hnonneg'
  rw [wrapAngle, hwrapped]
  refine if_neg ?_
  show ¬ Scalar.turn ≤ a
  rw [le_iff hturn ha]
  exact not_le.2 hlt'

namespace Shape

/-- All numbers of a shape are finite. -/
@[mk_iff]
structure IsFinite (s : Shape Float) : Prop where
  x : s.x.isFinite = true
  y : s.y.isFinite = true
  width : s.width.isFinite = true
  height : s.height.isFinite = true
  rotation : s.rotation.isFinite = true
  lineWidth : s.paint.lineWidth.isFinite = true

/-- The size of a shape is not negative and its rotation is within one turn. -/
@[mk_iff]
structure IsNormal (s : Shape Float) : Prop where
  width : 0 ≤ s.width
  height : 0 ≤ s.height
  rotation_nonneg : 0 ≤ s.rotation
  rotation_lt : s.rotation < Scalar.turn

instance : DecidablePred IsFinite := fun s => decidable_of_iff' _ (isFinite_iff s)

instance : DecidablePred IsNormal := fun s => decidable_of_iff' _ (isNormal_iff s)

/-- The second shape is the first one in another box or turned otherwise. -/
structure SameLook (s t : Shape Float) : Prop where
  id : t.id = s.id
  kind : t.kind = s.kind
  slope : t.slope = s.slope
  paint : t.paint = s.paint

/-- The second shape is the first one, but for sizes that are taken from rounded edges. -/
structure Resized (s t : Shape Float) : Prop extends SameLook s t where
  rotation : t.rotation = s.rotation
  x : (t.x == s.x) = true
  y : (t.y == s.y) = true
  width : (t.width == s.x + s.width - s.x) = true
  height : (t.height == s.y + s.height - s.y) = true

lemma sameLook_normalize (s : Shape Float) : s.SameLook s.normalize :=
  ⟨rfl, rfl, rfl, rfl⟩

/-- Normalized shapes look as before. -/
lemma forall₂_sameLook_normalize (shapes : List (Shape Float)) :
    List.Forall₂ SameLook shapes (shapes.map normalize) := by
  rw [List.forall₂_map_right_iff, List.forall₂_same]
  intro s _
  exact s.sameLook_normalize

/-- What normalizing a normal shape does. -/
lemma resized_normalize {s : Shape Float} (h : s.IsFinite) (hnormal : s.IsNormal) :
    s.Resized s.normalize where
  toSameLook := s.sameLook_normalize
  rotation := wrapAngle_of_lt h.rotation hnormal.rotation_nonneg hnormal.rotation_lt
  x := least_add_beq h.x h.width hnormal.width
  y := least_add_beq h.y h.height hnormal.height
  width := abs_add_sub_beq h.x h.width hnormal.width
  height := abs_add_sub_beq h.y h.height hnormal.height

/-- Shapes compare as equal if all their parts do. -/
lemma beq_iff_parts {s t : Shape Float} :
    (t == s) = true ↔ t.id = s.id ∧ t.kind = s.kind ∧ (t.x == s.x) = true ∧ (t.y == s.y) = true ∧
      (t.width == s.width) = true ∧ (t.height == s.height) = true ∧
      (t.rotation == s.rotation) = true ∧ t.slope = s.slope ∧ (t.paint == s.paint) = true := by
  obtain ⟨⟩ := s
  obtain ⟨⟩ := t
  show instBEqShape.beq _ _ = true ↔ _
  simp only [instBEqShape.beq, Bool.and_eq_true, beq_iff_eq]

lemma paint_beq_iff {p q : Paint Float} : (p == q) = true ↔
    p.fill = q.fill ∧ p.stroke = q.stroke ∧ (p.lineWidth == q.lineWidth) = true := by
  obtain ⟨⟩ := p
  obtain ⟨⟩ := q
  show instBEqPaint.beq _ _ = true ↔ _
  simp only [instBEqPaint.beq, Bool.and_eq_true, beq_iff_eq]

lemma paint_beq_self {p : Paint Float} (h : p.lineWidth.isFinite = true) : (p == p) = true :=
  paint_beq_iff.2 ⟨rfl, rfl, (Atelier.beq_iff h h).2 rfl⟩

/-- The shape compares as equal with the first one exactly if the sizes were not changed by the
rounding of an edge. -/
lemma Resized.beq_iff {s t : Shape Float} (h : s.IsFinite) (hst : s.Resized t) :
    (t == s) = true ↔ (s.x + s.width - s.x == s.width) = true ∧
      (s.y + s.height - s.y == s.height) = true := by
  have hrotation : (t.rotation == s.rotation) = true := by
    rw [hst.rotation]
    exact (Atelier.beq_iff h.rotation h.rotation).2 rfl
  have hpaint : (t.paint == s.paint) = true := by
    rw [hst.paint]
    exact paint_beq_self h.lineWidth
  rw [beq_iff_parts]
  constructor
  · rintro ⟨-, -, -, -, hwidth, hheight, -⟩
    exact ⟨BEq.trans (BEq.symm hst.width) hwidth, BEq.trans (BEq.symm hst.height) hheight⟩
  · rintro ⟨hwidth, hheight⟩
    exact ⟨hst.id, hst.kind, hst.x, hst.y, BEq.trans hst.width hwidth,
      BEq.trans hst.height hheight, hrotation, hst.slope, hpaint⟩

end Shape

end Atelier

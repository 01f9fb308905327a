/-
The areas of the handles, in exact arithmetic.

The squares of the resize handles stay level while their middles turn with the shape.  What keeps
two areas apart is therefore the distance of their middles, which a rotation does not change.  In
the frame of the shape the anchors stand on a grid of half the width by half the height, and the
rotation handle stands above all of them.  So the rotation handle is clear of the resize handles
whatever the size, and the resize handles are clear of each other if the shape is large enough
(`handle_areas_apart`).
-/
import Atelier.Proofs.Shape.Resize

namespace Atelier

/-! ## The grid of the anchors -/

namespace Anchor

/-- The place from left to right, in halves of the width. -/
def column : Anchor → ℤ
  | northWest | west | southWest => 0
  | north | south => 1
  | northEast | east | southEast => 2

/-- The place from top to bottom, in halves of the height. -/
def row : Anchor → ℤ
  | northWest | north | northEast => 0
  | west | east => 1
  | southWest | south | southEast => 2

lemma row_nonneg (a : Anchor) : 0 ≤ a.row := by
  cases a <;> decide

lemma mem_all (a : Anchor) : a ∈ all := by
  cases a <;> decide

/-- No two anchors have the same place on the grid. -/
lemma column_ne_or_row_ne {a b : Anchor} (h : a ≠ b) : a.column ≠ b.column ∨ a.row ≠ b.row := by
  revert h
  cases a <;> cases b <;> decide

end Anchor

/-- Different multiples of a length are at least that length apart. -/
lemma le_abs_mul_sub_mul {m n : ℤ} {l : ℝ} (hl : 0 ≤ l) (h : m ≠ n) : l ≤ |m * l - n * l| := by
  have hone : (1 : ℝ) ≤ |(m : ℝ) - n| := by
    exact_mod_cast Int.one_le_abs (sub_ne_zero.2 h)
  calc l = 1 * l := (one_mul l).symm
    _ ≤ |(m : ℝ) - n| * l := mul_le_mul_of_nonneg_right hone hl
    _ = |m * l - n * l| := by rw [← sub_mul, abs_mul, abs_of_nonneg hl]

namespace Box

variable (b : Box ℝ) (a : Anchor)

lemma anchorPoint_x : (b.anchorPoint a).x = b.x + a.column * (b.width / 2) := by
  have hright : b.right = b.x + 2 * (b.width / 2) := by rw [mul_div_cancel₀ _ two_ne_zero, right]
  cases a <;> simp [anchorPoint, Anchor.column, hright, center_x]

lemma anchorPoint_y : (b.anchorPoint a).y = b.y + a.row * (b.height / 2) := by
  have hbottom : b.bottom = b.y + 2 * (b.height / 2) := by
    rw [mul_div_cancel₀ _ two_ne_zero, bottom]
  cases a <;> simp [anchorPoint, Anchor.row, hbottom, center_y]

/-- Different anchors of a box are farther apart than half of a number that both sides exceed. -/
lemma lt_sq_add_sq_anchorPoint {b : Box ℝ} {a a' : Anchor} {r : ℝ} (hr : 0 ≤ r)
    (hwidth : 2 * r < b.width) (hheight : 2 * r < b.height) (h : a ≠ a') :
    r ^ 2 < ((b.anchorPoint a).x - (b.anchorPoint a').x) ^ 2 +
      ((b.anchorPoint a).y - (b.anchorPoint a').y) ^ 2 := by
  have hapart {l u v : ℝ} {m n : ℤ} (hl : 2 * r < l) (hmn : m ≠ n) (hu : u = m * (l / 2))
      (hv : v = n * (l / 2)) : r ^ 2 < (u - v) ^ 2 := by
    have hle : l / 2 ≤ |u - v| := by
      rw [hu, hv]
      exact le_abs_mul_sub_mul (by linarith) hmn
    rw [← sq_abs (u - v)]
    exact pow_lt_pow_left₀ (by linarith) hr two_ne_zero
  rw [anchorPoint_x, anchorPoint_x, anchorPoint_y, anchorPoint_y, add_sub_add_left_eq_sub,
    add_sub_add_left_eq_sub]
  rcases Anchor.column_ne_or_row_ne h with hcolumn | hrow
  · exact lt_add_of_lt_of_nonneg (hapart hwidth hcolumn rfl rfl) (sq_nonneg _)
  · exact lt_add_of_nonneg_of_lt (sq_nonneg _) (hapart hheight hrow rfl rfl)

end Box

namespace Shape

variable {s : Shape ℝ} {a b : Anchor} {p : Point ℝ}

/-! ## The squares -/

/-- The point is over the resize handle at an anchor. -/
def OverHandle (s : Shape ℝ) (a : Anchor) (p : Point ℝ) : Prop :=
  (handleBox (s.rotatedAnchor a)).containsRotated Scalar.zero p = true

lemma overHandle_iff : s.OverHandle a p ↔
    |p.x - (s.rotatedAnchor a).x| ≤ 5 ∧ |p.y - (s.rotatedAnchor a).y| ≤ 5 := by
  have hbox : (handleBox (s.rotatedAnchor a)).normalized = handleBox (s.rotatedAnchor a) :=
    Box.normalized_of_nonneg _ (Nat.cast_nonneg 10) (Nat.cast_nonneg 10)
  have hside : (handleSize : ℝ) = 10 := Nat.cast_ofNat
  rw [OverHandle, Box.containsRotated, hbox, Scalar.zero_real, neg_zero, Point.rotate_zero,
    Box.contains_iff, handleBox, hside, Scalar.half_real, abs_le, abs_le]
  constructor
  · rintro ⟨⟨h₁, h₂⟩, h₃, h₄⟩
    refine ⟨⟨?_, ?_⟩, ?_, ?_⟩ <;> linarith
  · rintro ⟨⟨h₁, h₂⟩, h₃, h₄⟩
    refine ⟨⟨?_, ?_⟩, ?_, ?_⟩ <;> linarith

lemma overHandle_rotatedAnchor (s : Shape ℝ) (a : Anchor) : s.OverHandle a (s.rotatedAnchor a) := by
  rw [overHandle_iff, sub_self, sub_self, abs_zero]
  norm_num

lemma overHandle_of_handleAt? (h : s.handleAt? p = some a) : s.OverHandle a p :=
  List.find?_some (p := fun a => (handleBox (s.rotatedAnchor a)).containsRotated Scalar.zero p) h

lemma isOverHandle_iff_exists : s.isOverHandle p = true ↔ ∃ a, s.OverHandle a p := by
  constructor
  · intro h
    obtain ⟨a, ha⟩ := Option.isSome_iff_exists.1 h
    exact ⟨a, overHandle_of_handleAt? ha⟩
  · rintro ⟨a, ha⟩
    exact List.find?_isSome.2 ⟨a, a.mem_all, ha⟩

/-- If the handle at one anchor only is under the point, that anchor is found. -/
lemma handleAt?_eq_some (h : s.OverHandle a p) (honly : ∀ b, s.OverHandle b p → b = a) :
    s.handleAt? p = some a := by
  obtain ⟨b, hb⟩ := Option.isSome_iff_exists.1 (isOverHandle_iff_exists.2 ⟨a, h⟩)
  rw [hb, honly b (overHandle_of_handleAt? hb)]

/-! ## Distances on the surface -/

/-- The way between two anchors is as long as before the rotation. -/
lemma lt_sq_add_sq_rotatedAnchor {r : ℝ} (hr : 0 ≤ r) (hwidth : 2 * r < s.bounds.width)
    (hheight : 2 * r < s.bounds.height) (h : a ≠ b) :
    r ^ 2 < ((s.rotatedAnchor a).x - (s.rotatedAnchor b).x) ^ 2 +
      ((s.rotatedAnchor a).y - (s.rotatedAnchor b).y) ^ 2 := by
  rw [rotatedAnchor_eq, rotatedAnchor_eq, Point.sq_add_sq_rotate]
  exact Box.lt_sq_add_sq_anchorPoint hr hwidth hheight h

/-- The rotation handle is at least its offset away from every anchor. -/
lemma le_sq_add_sq_rotationHandle (s : Shape ℝ) (a : Anchor) :
    20 ^ 2 ≤ ((s.rotatedAnchor a).x - s.rotationHandle.x) ^ 2 +
      ((s.rotatedAnchor a).y - s.rotationHandle.y) ^ 2 := by
  have hoffset : (rotationOffset : ℝ) = 20 := Nat.cast_ofNat
  have hheight : 0 ≤ s.bounds.height := by simp [bounds]
  have hrow : (0 : ℝ) ≤ a.row := Int.cast_nonneg a.row_nonneg
  have habove : 20 ≤ (s.bounds.anchorPoint a).y - (s.bounds.y - rotationOffset) := by
    rw [Box.anchorPoint_y, hoffset]
    nlinarith
  rw [rotatedAnchor_eq, rotationHandle, Point.sq_add_sq_rotate]
  exact le_add_of_nonneg_of_le (sq_nonneg _) (pow_le_pow_left₀ (by norm_num) habove 2)

/-- Two points that are near a third one are near each other. -/
lemma sq_sub_le (u v w : ℝ) : (u - v) ^ 2 ≤ 2 * (w - u) ^ 2 + 2 * (w - v) ^ 2 := by
  linarith [sq_nonneg (w - u + (w - v))]

/-- A point over a resize handle is too far from the rotation handle to be over it. -/
lemma not_isOverRotationHandle_of_overHandle (h : s.OverHandle a p) :
    ¬ s.isOverRotationHandle p = true := by
  intro hover
  have hradius : (rotationRadius : ℝ) = 6 := Nat.cast_ofNat
  rw [isOverRotationHandle, decide_eq_true_eq, hradius, Point.distance_le_iff _ _ (by norm_num)]
    at hover
  obtain ⟨hx, hy⟩ := overHandle_iff.1 h
  have hx' := sq_le_sq' (abs_le.1 hx).1 (abs_le.1 hx).2
  have hy' := sq_le_sq' (abs_le.1 hy).1 (abs_le.1 hy).2
  have hfar := s.le_sq_add_sq_rotationHandle a
  linarith [sq_sub_le (s.rotatedAnchor a).x s.rotationHandle.x p.x,
    sq_sub_le (s.rotatedAnchor a).y s.rotationHandle.y p.y]

/-- Anchors whose squares hold one point are at most a diagonal of the square apart. -/
lemma sq_add_sq_le_of_overHandle (ha : s.OverHandle a p) (hb : s.OverHandle b p) :
    ((s.rotatedAnchor a).x - (s.rotatedAnchor b).x) ^ 2 +
      ((s.rotatedAnchor a).y - (s.rotatedAnchor b).y) ^ 2 ≤ 2 * 10 ^ 2 := by
  obtain ⟨hax, hay⟩ := overHandle_iff.1 ha
  obtain ⟨hbx, hby⟩ := overHandle_iff.1 hb
  rw [abs_le] at hax hay hbx hby
  have hx : |(s.rotatedAnchor a).x - (s.rotatedAnchor b).x| ≤ 10 :=
    abs_le.2 ⟨by linarith, by linarith⟩
  have hy : |(s.rotatedAnchor a).y - (s.rotatedAnchor b).y| ≤ 10 :=
    abs_le.2 ⟨by linarith, by linarith⟩
  linarith [sq_le_sq' (abs_le.1 hx).1 (abs_le.1 hx).2, sq_le_sq' (abs_le.1 hy).1 (abs_le.1 hy).2]

/-- The rotation handle and a resize handle are never under the same point.  The handle of every
anchor is found at its own middle if the box is larger than the diagonal of a handle, whatever its
rotation, and no two resize handles share a point if it is larger than twice that. -/
theorem handle_areas_apart (s : Shape ℝ) :
    (∀ p, ¬ (s.isOverHandle p = true ∧ s.isOverRotationHandle p = true)) ∧
    (10 * √2 < s.bounds.width → 10 * √2 < s.bounds.height →
      ∀ i p, (Anchor.all.map s.rotatedAnchor)[i]? = some p → s.handleAt? p = Anchor.ofIndex? i) ∧
    (20 * √2 < s.bounds.width → 20 * √2 < s.bounds.height →
      ∀ p a b, s.OverHandle a p → s.OverHandle b p → a = b) := by
  have hsq : √2 ^ 2 = (2 : ℝ) := Real.sq_sqrt zero_le_two
  refine ⟨?_, ?_, ?_⟩
  · rintro p ⟨hover, hrotation⟩
    obtain ⟨a, ha⟩ := isOverHandle_iff_exists.1 hover
    exact not_isOverRotationHandle_of_overHandle ha hrotation
  · intro hwidth hheight i p hp
    rw [List.getElem?_map, Option.map_eq_some_iff] at hp
    obtain ⟨a, ha, rfl⟩ := hp
    rw [Anchor.ofIndex?, ha]
    refine handleAt?_eq_some (s.overHandle_rotatedAnchor a) fun b hb => ?_
    by_contra hne
    have hfar := lt_sq_add_sq_rotatedAnchor (s := s) (r := 5 * √2) (by positivity) (by linarith)
      (by linarith) (Ne.symm hne)
    obtain ⟨hx, hy⟩ := overHandle_iff.1 hb
    linarith [mul_pow 5 √2 2, sq_le_sq' (abs_le.1 hx).1 (abs_le.1 hx).2,
      sq_le_sq' (abs_le.1 hy).1 (abs_le.1 hy).2]
  · intro hwidth hheight p a b ha hb
    by_contra hne
    have hfar := lt_sq_add_sq_rotatedAnchor (s := s) (r := 10 * √2) (by positivity) (by linarith)
      (by linarith) hne
    linarith [mul_pow 10 √2 2, sq_add_sq_le_of_overHandle ha hb]

/-- A square of 30 by 30 pixels, drawn to the left and turned by an eighth of a turn, so that its
corners are level with its middle. -/
noncomputable def standing : Shape ℝ :=
  ⟨.ofNat 1, .rectangle, 30, 0, -30, 30, Real.pi / 4, .descending, .default⟩

/-- Its sides are hardly longer than they have to be. -/
theorem handle_areas_apart_standing :
    (20 * √2 < standing.bounds.width ∧ 20 * √2 < standing.bounds.height) ∧
    standing.handleAt? (standing.rotatedAnchor .south) = some .south ∧
    (∀ p, standing.OverHandle .south p → ¬ standing.OverHandle .southWest p) ∧
    ∀ p, standing.OverHandle .north p → ¬ standing.isOverRotationHandle p = true := by
  have hroot : √2 < 3 / 2 := by
    rw [Real.sqrt_lt' (by norm_num)]
    norm_num
  have hbounds : standing.bounds = ⟨0, 0, 30, 30⟩ := by
    norm_num [bounds, Box.normalized_eq, frame, standing]
  have hwidth : 20 * √2 < standing.bounds.width := by
    rw [hbounds]
    linarith
  have hheight : 20 * √2 < standing.bounds.height := by
    rw [hbounds]
    linarith
  have hten : 10 * √2 ≤ 20 * √2 := by linarith [Real.sqrt_nonneg 2]
  obtain ⟨hknob, hfound, happart⟩ := handle_areas_apart standing
  refine ⟨⟨hwidth, hheight⟩, ?_, ?_, ?_⟩
  · exact hfound (hten.trans_lt hwidth) (hten.trans_lt hheight) 5 _ rfl
  · intro p hsouth hwest
    exact absurd (happart hwidth hheight p _ _ hsouth hwest) (by decide)
  · intro p hnorth hover
    exact hknob p ⟨isOverHandle_iff_exists.2 ⟨_, hnorth⟩, hover⟩

end Shape

end Atelier

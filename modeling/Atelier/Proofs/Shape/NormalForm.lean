/-
The normal form of shapes, in exact arithmetic.

A shape is in normal form if its size is not negative and it is turned by less than a full turn.
Normalizing brings every shape into this form and changes no shape that has it
(`normalize_eq_self_iff`).  Moving and turning keep it; resizing even brings the size of any
shape into it, since an edge stops at the one across from it.
-/
import Atelier.Proofs.Geometry.Exact
import Atelier.Shape.Transform

namespace Atelier

namespace Shape

/-- The size is not negative and the rotation lies within one turn. -/
structure InNormalForm (s : Shape ℝ) : Prop where
  width : 0 ≤ s.width
  height : 0 ≤ s.height
  rotation : s.rotation ∈ Set.Ico 0 (2 * Real.pi)

variable {s : Shape ℝ}

lemma inNormalForm_normalize (s : Shape ℝ) : s.normalize.InNormalForm where
  width := by
    show 0 ≤ s.frame.normalized.width
    simp
  height := by
    show 0 ≤ s.frame.normalized.height
    simp
  rotation := wrapAngle_mem_Ico s.rotation

/-- The shapes in normal form are those that normalizing leaves as they are. -/
lemma normalize_eq_self_iff : s.normalize = s ↔ s.InNormalForm := by
  constructor
  · intro h
    rw [← h]
    exact s.inNormalForm_normalize
  · intro h
    have hframe : s.bounds = s.frame := Box.normalized_of_nonneg _ h.width h.height
    rw [normalize, hframe, wrapAngle_of_mem_Ico h.rotation]
    rfl

/-! ## Transforms -/

lemma width_dragEdges_nonneg {b : Box ℝ} (h : 0 ≤ b.width) (anchor : Anchor) (p : Point ℝ) :
    0 ≤ (dragEdges b anchor p).width := by
  have hedges : b.x ≤ b.right := le_add_of_nonneg_right h
  cases anchor <;> simp [dragEdges, Anchor.movesLeft, Anchor.movesRight, hedges]

lemma height_dragEdges_nonneg {b : Box ℝ} (h : 0 ≤ b.height) (anchor : Anchor) (p : Point ℝ) :
    0 ≤ (dragEdges b anchor p).height := by
  have hedges : b.y ≤ b.bottom := le_add_of_nonneg_right h
  cases anchor <;> simp [dragEdges, Anchor.movesTop, Anchor.movesBottom, hedges]

/-- Moving the shape back to its fixed anchor does not change the size. -/
lemma size_resize (s : Shape ℝ) (anchor : Anchor) (p : Point ℝ) :
    let box := dragEdges s.bounds anchor (p.rotate s.center (-s.rotation))
    (s.resize anchor p).width = box.width ∧ (s.resize anchor p).height = box.height := by
  simp only [resize]
  split <;> exact ⟨rfl, rfl⟩

lemma size_resize_nonneg (s : Shape ℝ) (anchor : Anchor) (p : Point ℝ) :
    0 ≤ (s.resize anchor p).width ∧ 0 ≤ (s.resize anchor p).height := by
  obtain ⟨hwidth, hheight⟩ := s.size_resize anchor p
  rw [hwidth, hheight]
  exact ⟨width_dragEdges_nonneg (by simp [bounds]) anchor _,
    height_dragEdges_nonneg (by simp [bounds]) anchor _⟩

lemma rotation_resize (s : Shape ℝ) (anchor : Anchor) (p : Point ℝ) :
    (s.resize anchor p).rotation = s.rotation := by
  simp only [resize]
  split <;> rfl

namespace InNormalForm

lemma translate (h : s.InNormalForm) (dx dy : ℝ) : (s.translate dx dy).InNormalForm :=
  ⟨h.width, h.height, h.rotation⟩

lemma resize (h : s.rotation ∈ Set.Ico 0 (2 * Real.pi)) (anchor : Anchor) (p : Point ℝ) :
    (s.resize anchor p).InNormalForm where
  width := (s.size_resize_nonneg anchor p).1
  height := (s.size_resize_nonneg anchor p).2
  rotation := by rwa [rotation_resize]

lemma setRotation (h : s.InNormalForm) (angle : ℝ) : (s.setRotation angle).InNormalForm :=
  ⟨h.width, h.height, wrapAngle_mem_Ico angle⟩

end InNormalForm

end Shape

end Atelier

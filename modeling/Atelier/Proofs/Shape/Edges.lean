/-
Resizing to a point, in exact arithmetic.

A resized shape has its edges where the pointer is.  So it is the same shape only if the pointer
is on the edges already (`resize_eq_self_iff`), however far the pointer has come.
-/
import Atelier.Proofs.Shape.NormalForm

namespace Atelier

/-- The point lies on each edge that the anchor moves.  An edge is not moved past the one across
from it. -/
structure Box.OnEdges (b : Box ℝ) (anchor : Anchor) (p : Point ℝ) : Prop where
  left : anchor.movesLeft = true → min p.x b.right = b.x
  right : anchor.movesRight = true → max p.x b.x = b.right
  top : anchor.movesTop = true → min p.y b.bottom = b.y
  bottom : anchor.movesBottom = true → max p.y b.y = b.bottom

namespace Shape

variable {b : Box ℝ} {anchor : Anchor} {p : Point ℝ}

/-- Edges that are moved to where they are stay. -/
lemma dragEdges_eq_self (h : b.OnEdges anchor p) : dragEdges b anchor p = b := by
  obtain ⟨hleft, hright, htop, hbottom⟩ := h
  have hwidth : b.right - b.x = b.width := add_sub_cancel_left _ _
  have hheight : b.bottom - b.y = b.height := add_sub_cancel_left _ _
  cases anchor <;>
    simp_all [dragEdges, Anchor.movesLeft, Anchor.movesRight, Anchor.movesTop, Anchor.movesBottom]

/-- A box that keeps its size has no edge moved away. -/
lemma onEdges_of_size (hwidth : (dragEdges b anchor p).width = b.width)
    (hheight : (dragEdges b anchor p).height = b.height) : b.OnEdges anchor p := by
  have hx : b.right = b.x + b.width := rfl
  have hy : b.bottom = b.y + b.height := rfl
  -- No anchor moves two edges across from each other.
  have hacross : (anchor.movesLeft && anchor.movesRight) = false ∧
      (anchor.movesTop && anchor.movesBottom) = false := by
    cases anchor <;> exact ⟨rfl, rfl⟩
  constructor
  case left =>
    intro hmoves
    rw [hmoves, Bool.true_and] at hacross
    have hsame : b.right - min p.x b.right = b.width := by
      simpa [dragEdges, hmoves, hacross.1] using hwidth
    linarith
  case right =>
    intro hmoves
    rw [hmoves, Bool.and_true] at hacross
    have hsame : max p.x b.x - b.x = b.width := by
      simpa [dragEdges, hmoves, hacross.1] using hwidth
    linarith
  case top =>
    intro hmoves
    rw [hmoves, Bool.true_and] at hacross
    have hsame : b.bottom - min p.y b.bottom = b.height := by
      simpa [dragEdges, hmoves, hacross.2] using hheight
    linarith
  case bottom =>
    intro hmoves
    rw [hmoves, Bool.and_true] at hacross
    have hsame : max p.y b.y - b.y = b.height := by
      simpa [dragEdges, hmoves, hacross.2] using hheight
    linarith

/-- Resizing to a point leaves a shape exactly if the point is on the edges that move. -/
theorem resize_eq_self_iff {s : Shape ℝ} (h : s.InNormalForm) :
    s.resize anchor p = s ↔ s.frame.OnEdges anchor (p.rotate s.center (-s.rotation)) := by
  have hbounds : s.bounds = s.frame := Box.normalized_of_nonneg _ h.width h.height
  have hcenter : s.center = s.frame.center := by rw [center, hbounds]
  constructor
  · intro hsame
    obtain ⟨hwidth, hheight⟩ := s.size_resize anchor p
    rw [hsame, hbounds] at hwidth hheight
    exact onEdges_of_size hwidth.symm hheight.symm
  · intro hedges
    have hframe : s.withFrame s.frame = s := rfl
    have hdrag := dragEdges_eq_self hedges
    rw [hcenter] at hdrag
    simp only [resize, hbounds, hdrag, hframe]
    split
    · rfl
    · simp [translate]

end Shape

end Atelier

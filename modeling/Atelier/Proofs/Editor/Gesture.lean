/-
Gestures and the shape they change.

A gesture remembers the numbers of its shape that it can change, as they were at the press.
The main fact is `restore_apply`: wherever the pointer goes, restoring gives the same
shape, so that following the pointer loses nothing.
-/
import Mathlib.Tactic.Common
import Atelier.Editor.Basic
import Atelier.Proofs.Sheet

namespace Atelier

variable {α : Type}

/-! ## Boxes and shapes -/

namespace Shape

@[simp] lemma withFrame_withFrame (s : Shape α) (b c : Box α) :
    (s.withFrame b).withFrame c = s.withFrame c := rfl

variable [Scalar α]

/-- Resizing changes a shape as a change of its box does. -/
lemma exists_resize_eq_withFrame (s : Shape α) (anchor : Anchor) (p : Point α) :
    ∃ b, s.resize anchor p = s.withFrame b := by
  refine ⟨(s.resize anchor p).frame, ?_⟩
  simp only [resize]
  split <;> rfl

@[simp] lemma withFrame_resize (s : Shape α) (anchor : Anchor) (p : Point α) (b : Box α) :
    (s.resize anchor p).withFrame b = s.withFrame b := by
  obtain ⟨c, hc⟩ := s.exists_resize_eq_withFrame anchor p
  rw [hc, withFrame_withFrame]

@[simp] lemma id_resize (s : Shape α) (anchor : Anchor) (p : Point α) :
    (s.resize anchor p).id = s.id := by
  obtain ⟨c, hc⟩ := s.exists_resize_eq_withFrame anchor p
  rw [hc]
  rfl

@[simp] lemma kind_resize (s : Shape α) (anchor : Anchor) (p : Point α) :
    (s.resize anchor p).kind = s.kind := by
  obtain ⟨c, hc⟩ := s.exists_resize_eq_withFrame anchor p
  rw [hc]
  rfl

end Shape

/-! ## Gestures -/

namespace Gesture

lemma isIdle_iff {g : Gesture α} : g.isIdle = true ↔ g = .idle := by
  cases g <;> simp [isIdle]

@[simp] lemma target?_idle : (idle : Gesture α).target? = none := rfl

@[simp] lemma target?_drawing (kind : ShapeKind) (anchor current : Point α) :
    (drawing kind anchor current).target? = none := rfl

lemma keepsId_restore (g : Gesture α) : KeepsId g.restore := by
  intro s
  cases g <;> rfl

@[simp] lemma target?_follow (g : Gesture α) (p : Point α) :
    (g.follow p).target? = g.target? := by
  cases g <;> rfl

@[simp] lemma hasChanged_follow [BEq α] (g : Gesture α) (p : Point α) (s : Shape α) :
    (g.follow p).hasChanged s = g.hasChanged s := by
  cases g <;> rfl

/-- Where the pointer is does not matter for what a gesture restores. -/
@[simp] lemma restore_follow (g : Gesture α) (p : Point α) : (g.follow p).restore = g.restore := by
  cases g <;> rfl

variable [Scalar α]

lemma keepsId_apply (g : Gesture α) (p : Point α) : KeepsId (g.apply p) := by
  intro s
  cases g with
  | resizing id anchor frame => exact (s.withFrame frame).id_resize anchor p
  | _ => rfl

@[simp] lemma kind_apply (g : Gesture α) (p : Point α) (s : Shape α) :
    (g.apply p s).kind = s.kind := by
  cases g with
  | resizing id anchor frame => exact (s.withFrame frame).kind_resize anchor p
  | _ => rfl

/-- A gesture restores all that it changes. -/
@[simp] lemma restore_apply (g : Gesture α) (p : Point α) (s : Shape α) :
    g.restore (g.apply p s) = g.restore s := by
  cases g with
  | resizing id anchor frame => simp [restore, apply]
  | _ => rfl

/-- The gesture that begins when the pointer takes hold of a part of a shape. -/
def begin (s : Shape α) (grip : Grip) (p : Point α) : Gesture α :=
  match grip with
  | .body => .dragging s.id p s.x s.y
  | .resize anchor => .resizing s.id anchor s.frame
  | .rotate => .rotating s.id s.center (s.center.angleFrom p) s.rotation

@[simp] lemma target?_begin (s : Shape α) (grip : Grip) (p : Point α) :
    (begin s grip p).target? = some s.id := by
  cases grip <;> rfl

@[simp] lemma restore_begin (s : Shape α) (grip : Grip) (p : Point α) :
    (begin s grip p).restore s = s := by
  cases grip <;> rfl

end Gesture

end Atelier

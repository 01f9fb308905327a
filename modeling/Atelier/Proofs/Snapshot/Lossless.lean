/-
What a JSON snapshot loses.

Numbers are read again when shapes are loaded, and the shapes are normalized: the size of a normal
shape is then taken from its rounded edges.  So a drawing of normal shapes comes back as it was
exactly if no number is changed by either, and if all numbers are read back only sizes are changed
(`Sheet.loaded_beq_iff`).  Some sizes are changed (`Sheet.not_lossless`).
-/
import Atelier.Proofs.Snapshot.Json

namespace Atelier

lemma map_beq_iff {α : Type} [BEq α] (f : α → α) (l : List α) :
    (l.map f == l) = true ↔ ∀ a ∈ l, (f a == a) = true := by
  induction l with
  | nil => simp
  | cons a l ih => rw [List.map_cons, List.cons_beq_cons, Bool.and_eq_true, ih,
      List.forall_mem_cons]

open Json.Number (rereadFloat)

namespace Shape

variable {s t : Shape Float}

/-- The second shape is the first one as it is loaded from its text: with its numbers read again,
and with a size that is taken from rounded edges. -/
structure Reloaded (s t : Shape Float) : Prop where
  id : t.id = s.id
  kind : t.kind = s.kind
  slope : t.slope = s.slope
  fill : t.paint.fill = s.paint.fill
  stroke : t.paint.stroke = s.paint.stroke
  lineWidth : t.paint.lineWidth = rereadFloat s.paint.lineWidth
  rotation : t.rotation = wrapAngle (rereadFloat s.rotation)
  x : (t.x == rereadFloat s.x) = true
  y : (t.y == rereadFloat s.y) = true
  width : (t.width == rereadFloat s.x + rereadFloat s.width - rereadFloat s.x) = true
  height : (t.height == rereadFloat s.y + rereadFloat s.height - rereadFloat s.y) = true

/-- A shape whose numbers are the same after they have been read again and its size has been taken
from its edges. -/
structure Regained (s : Shape Float) : Prop where
  x : (rereadFloat s.x == s.x) = true
  y : (rereadFloat s.y == s.y) = true
  width : (rereadFloat s.x + rereadFloat s.width - rereadFloat s.x == s.width) = true
  height : (rereadFloat s.y + rereadFloat s.height - rereadFloat s.y == s.height) = true
  rotation : (wrapAngle (rereadFloat s.rotation) == s.rotation) = true
  lineWidth : (rereadFloat s.paint.lineWidth == s.paint.lineWidth) = true

/-- A normal shape is loaded so.  Its size is not negative when it is read again. -/
lemma reloaded_normalize (h : s.IsFinite) (hnormal : s.IsNormal) :
    s.Reloaded s.reread.normalize := by
  obtain ⟨hx, hy, hwidth, hheight, -, -⟩ := isFinite_reread_iff.2 h
  have hwide := Json.Number.rereadFloat_nonneg hnormal.width
  have hhigh := Json.Number.rereadFloat_nonneg hnormal.height
  exact {
    id := rfl
    kind := rfl
    slope := rfl
    fill := rfl
    stroke := rfl
    lineWidth := rfl
    rotation := rfl
    x := least_add_beq hx hwidth hwide
    y := least_add_beq hy hheight hhigh
    width := abs_add_sub_beq hx hwidth hwide
    height := abs_add_sub_beq hy hheight hhigh }

/-- What is loaded compares as equal exactly if the numbers are the same. -/
lemma Reloaded.beq_iff (hst : s.Reloaded t) : (t == s) = true ↔ s.Regained := by
  rw [beq_iff_parts, paint_beq_iff, hst.rotation, hst.lineWidth]
  constructor
  · rintro ⟨-, -, hx, hy, hwidth, hheight, hrotation, -, -, -, hline⟩
    exact ⟨BEq.trans (BEq.symm hst.x) hx, BEq.trans (BEq.symm hst.y) hy,
      BEq.trans (BEq.symm hst.width) hwidth, BEq.trans (BEq.symm hst.height) hheight, hrotation,
      hline⟩
  · rintro ⟨hx, hy, hwidth, hheight, hrotation, hline⟩
    exact ⟨hst.id, hst.kind, BEq.trans hst.x hx, BEq.trans hst.y hy, BEq.trans hst.width hwidth,
      BEq.trans hst.height hheight, hrotation, hst.slope, hst.fill, hst.stroke, hline⟩

end Shape

namespace Sheet

variable {sheet : Sheet Float}

/-- A drawing of normal shapes is loaded from its text, shape by shape.  It compares as equal with
what was saved exactly if reading the numbers again and taking the sizes from the edges changes no
number.  If all numbers are read from their texts as they are, nothing but sizes is changed, and
only the edges decide. -/
theorem loaded_beq_iff (h : ∀ s ∈ sheet.shapes, s.IsFinite)
    (hnormal : ∀ s ∈ sheet.shapes, s.IsNormal) :
    ∃ loaded, ofJsonText sheet.jsonText = .ok loaded ∧
      List.Forall₂ Shape.Reloaded sheet.shapes loaded.shapes ∧
      ((loaded == sheet) = true ↔ ∀ s ∈ sheet.shapes, s.Regained) ∧
      ((∀ s ∈ sheet.shapes, s.ReadsBack) →
        List.Forall₂ Shape.Resized sheet.shapes loaded.shapes ∧
        ((loaded == sheet) = true ↔ ∀ s ∈ sheet.shapes,
          (s.x + s.width - s.x == s.width) = true ∧
            (s.y + s.height - s.y == s.height) = true)) := by
  have hreloaded : ∀ s ∈ sheet.shapes, s.Reloaded s.reread.normalize := fun s hs =>
    Shape.reloaded_normalize (h s hs) (hnormal s hs)
  have hbeq : ((⟨sheet.shapes.map fun s => s.reread.normalize⟩ : Sheet Float) == sheet) = true ↔
      ∀ s ∈ sheet.shapes, (s.reread.normalize == s) = true := map_beq_iff _ sheet.shapes
  refine ⟨_, ofJsonText_of_isFinite h, ?_, ?_, fun hback => ?_⟩
  · rw [List.forall₂_map_right_iff, List.forall₂_same]
    exact hreloaded
  · rw [hbeq]
    exact forall₂_congr fun s hs => (hreloaded s hs).beq_iff
  · have hresized : ∀ s ∈ sheet.shapes, s.Resized s.reread.normalize := fun s hs => by
      rw [Shape.reread_eq_iff.2 (hback s hs)]
      exact Shape.resized_normalize (h s hs) (hnormal s hs)
    rw [List.forall₂_map_right_iff, List.forall₂_same, hbeq]
    exact ⟨hresized, forall₂_congr fun s hs => (hresized s hs).beq_iff (h s hs)⟩

/-- Two normal shapes.  The sum of 0.1 and 0.2 is rounded up, and the second shape has sizes that
can be taken back. -/
def tenths : Sheet Float :=
  ⟨[⟨.ofNat 1, .rectangle, 0.1, 0.1, 0.2, 0.2, 0, .descending, .default⟩,
    ⟨.ofNat 2, .line, -3, 0.25, 7, 0, 1.5, .ascending, .default⟩]⟩

lemma tenths_isFinite : ∀ s ∈ tenths.shapes, s.IsFinite := by decide +kernel

lemma tenths_isNormal : ∀ s ∈ tenths.shapes, s.IsNormal := by decide +kernel

theorem loaded_beq_iff_tenths :
    (∀ s ∈ tenths.shapes, s.IsFinite) ∧ (∀ s ∈ tenths.shapes, s.IsNormal) ∧
      (∀ s ∈ tenths.shapes, s.ReadsBack) ∧
      ∃ loaded, ofJsonText tenths.jsonText = .ok loaded ∧
        List.Forall₂ Shape.Resized tenths.shapes loaded.shapes ∧ (loaded == tenths) = false := by
  obtain ⟨loaded, hload, -, -, hregained⟩ := loaded_beq_iff tenths_isFinite tenths_isNormal
  have hback : ∀ s ∈ tenths.shapes, s.ReadsBack := by decide +kernel
  obtain ⟨hshapes, hiff⟩ := hregained hback
  refine ⟨tenths_isFinite, tenths_isNormal, hback, loaded, hload, hshapes, ?_⟩
  rw [Bool.eq_false_iff, ne_eq, hiff]
  decide +kernel

/-- Not every drawing of normal shapes comes back as it was, although all its numbers are read
back. -/
theorem not_lossless :
    ¬ ∀ sheet : Sheet Float, (∀ s ∈ sheet.shapes, s.IsFinite) →
      (∀ s ∈ sheet.shapes, s.IsNormal) →
        ∃ loaded, ofJsonText sheet.jsonText = .ok loaded ∧ (loaded == sheet) = true := by
  intro hall
  obtain ⟨loaded, hload, hbeq⟩ := hall tenths tenths_isFinite tenths_isNormal
  rw [ofJsonText_of_isFinite tenths_isFinite, Except.ok.injEq] at hload
  have hregained := (Shape.reloaded_normalize (tenths_isFinite _ List.mem_cons_self)
    (tenths_isNormal _ List.mem_cons_self)).beq_iff.1
  subst hload
  have hwidth := (hregained ((map_beq_iff _ _).1 hbeq _ List.mem_cons_self)).width
  revert hwidth
  decide +kernel

end Sheet

end Atelier

/-
Shapes stay in normal form, in exact arithmetic.

Every event keeps each shape of the sheet at a size that is not negative and a rotation within
one turn.  A gesture gives the shape back the numbers of the press when it is cancelled, so that
these numbers belong to the invariant: besides the shapes of the sheet, what the gesture would
restore is in normal form (`Editor.InNormalForm`).
-/
import Atelier.Proofs.Editor.Step
import Atelier.Proofs.Shape.NormalForm

namespace Atelier

/-! ## Gestures -/

namespace Gesture

/-- Restoring a shape in normal form gives a shape in normal form. -/
def RestoresNormalForm (g : Gesture ℝ) : Prop :=
  ∀ s : Shape ℝ, s.InNormalForm → (g.restore s).InNormalForm

lemma restoresNormalForm_idle : (idle : Gesture ℝ).RestoresNormalForm :=
  fun _ hs => hs

lemma restoresNormalForm_drawing (kind : ShapeKind) (anchor current : Point ℝ) :
    (drawing kind anchor current).RestoresNormalForm :=
  fun _ hs => hs

/-- A gesture remembers numbers of the shape that it takes hold of. -/
lemma restoresNormalForm_begin {s : Shape ℝ} (h : s.InNormalForm) (grip : Grip) (p : Point ℝ) :
    (begin s grip p).RestoresNormalForm := by
  intro t ht
  cases grip with
  | body => exact ⟨ht.width, ht.height, ht.rotation⟩
  | resize anchor => exact ⟨h.width, h.height, ht.rotation⟩
  | rotate => exact ⟨ht.width, ht.height, h.rotation⟩

/-- Whatever the gesture remembers, following the pointer keeps the normal form. -/
lemma inNormalForm_apply (g : Gesture ℝ) (p : Point ℝ) {s : Shape ℝ} (h : s.InNormalForm) :
    (g.apply p s).InNormalForm := by
  cases g with
  | idle | drawing => exact h
  | dragging => exact h.translate _ _
  | resizing id anchor frame =>
    have hframe : (s.withFrame frame).rotation ∈ Set.Ico 0 (2 * Real.pi) := h.rotation
    exact .resize hframe anchor p
  | rotating => exact h.setRotation _

end Gesture

/-! ## Editors -/

namespace Editor

/-- The shapes are in normal form, and stay so if the gesture is cancelled. -/
structure InNormalForm (e : Editor ℝ) : Prop where
  shapes : ∀ s ∈ e.sheet.shapes, s.InNormalForm
  restores : e.gesture.RestoresNormalForm

/-- The editors that a host can bring about if it loads shapes in normal form only: by making one,
by loading, and by events. -/
inductive NormalReachable : Editor ℝ → Prop where
  | ofSize (width height : ℝ) : NormalReachable (ofSize width height)
  | load (e : Editor ℝ) {sheet : Sheet ℝ} (normal : ∀ s ∈ sheet.shapes, s.normalize = s) :
      NormalReachable (e.load sheet)
  | handle {e : Editor ℝ} (event : Event ℝ) :
      NormalReachable e → NormalReachable (e.handle event).1

variable {e e' : Editor ℝ}

/-- Without a gesture only the shapes matter. -/
lemma inNormalForm_of_idle (hidle : e.gesture = .idle)
    (hshapes : ∀ s ∈ e.sheet.shapes, s.InNormalForm) : e.InNormalForm := by
  refine ⟨hshapes, ?_⟩
  rw [hidle]
  exact Gesture.restoresNormalForm_idle

namespace InNormalForm

/-- Cancelling restores the held shape from the numbers that the gesture remembers. -/
lemma cancel (h : e.InNormalForm) : ∀ s ∈ e.cancel.sheet.shapes, s.InNormalForm := by
  unfold Editor.cancel
  split
  · exact Sheet.forall_mem_modify h.shapes h.restores
  · exact h.shapes

/-- Following the pointer keeps the shapes in normal form. -/
lemma modify_apply (h : e.InNormalForm) (id : ShapeId) (p : Point ℝ) :
    ∀ s ∈ (e.sheet.modify id (e.gesture.apply p)).shapes, s.InNormalForm :=
  Sheet.forall_mem_modify h.shapes fun _ hs => e.gesture.inNormalForm_apply p hs

/-- What every event does to the normal form. -/
lemma step {event : Event ℝ} {actions : List (Action ℝ)} (h : Step e event actions e')
    (he : e.InNormalForm) : e'.InNormalForm := by
  cases h with
  | ignore => exact he
  | setTool => exact ⟨he.shapes, he.restores⟩
  | draw | stretch => exact ⟨he.shapes, Gesture.restoresNormalForm_drawing _ _ _⟩
  | @grab p s grip _ _ _ hfound =>
    have hs : s.InNormalForm := he.shapes s (List.mem_of_find?_eq_some hfound)
    exact ⟨he.shapes, Gesture.restoresNormalForm_begin hs grip p⟩
  | deselect | forget => exact ⟨he.shapes, he.restores⟩
  | @change p id =>
    refine ⟨he.modify_apply id p, ?_⟩
    intro s hs
    rw [Gesture.restore_follow]
    exact he.restores s hs
  | lose => exact inNormalForm_of_idle rfl he.shapes
  | add =>
    refine inNormalForm_of_idle rfl fun s hs => ?_
    rcases List.mem_append.1 hs with hs | hs
    · exact he.shapes s hs
    · rw [List.mem_singleton.1 hs]
      exact Shape.inNormalForm_normalize _
  | @report p _ id | @settle p _ id => exact inNormalForm_of_idle rfl (he.modify_apply id p)
  | cancel => exact inNormalForm_of_idle (gesture_cancel e) he.cancel
  | delete _ hidle =>
    exact inNormalForm_of_idle hidle fun s hs => he.shapes s (Sheet.mem_of_mem_remove hs)

end InNormalForm

lemma NormalReachable.inNormalForm (h : e.NormalReachable) : e.InNormalForm := by
  induction h with
  | ofSize => exact inNormalForm_of_idle rfl fun s hs => by cases hs
  | load e hnormal =>
    exact inNormalForm_of_idle rfl fun s hs => Shape.normalize_eq_self_iff.1 (hnormal s hs)
  | @handle e event _ ih => exact ih.step (step_handle e event)

lemma normalReachable_run (h : e.NormalReachable) (events : List (Event ℝ)) :
    NormalReachable (e.run events).1 :=
  run_induction (fun _ he event _ => .handle event he) h

/-- If a host loads no shapes but normalized ones, then in every state every shape has a size that
is not negative and a rotation within one turn: while a shape is being drawn, moved, resized or
turned, and after the gesture was committed or cancelled. -/
theorem size_and_rotation_in_range (h : e.NormalReachable) :
    ∀ s ∈ e.sheet.shapes,
      0 ≤ s.width ∧ 0 ≤ s.height ∧ 0 ≤ s.rotation ∧ s.rotation < 2 * Real.pi := by
  intro s hs
  have hform := h.inNormalForm.shapes s hs
  exact ⟨hform.width, hform.height, hform.rotation.1, hform.rotation.2⟩

/-- A rectangle that is turned by half a turn. -/
noncomputable def inverted : Shape ℝ :=
  ⟨.ofNat 1, .rectangle, 10, 10, 100, 50, Real.pi, .descending, .default⟩

/-- The rectangle is being dragged by its middle. -/
noncomputable def carriedInverted : Editor ℝ :=
  ((Editor.new.load ⟨[inverted]⟩).run [.press ⟨60, 35⟩ .primary, .move ⟨75, 20⟩]).1

lemma bounds_inverted : inverted.bounds = ⟨10, 10, 100, 50⟩ :=
  Box.normalized_of_nonneg _ (by norm_num [inverted, Shape.frame])
    (by norm_num [inverted, Shape.frame])

lemma contains_inverted : inverted.contains ⟨60, 35⟩ = true := by
  show inverted.bounds.containsRotated Real.pi ⟨60, 35⟩ = true
  have hcenter : Box.center (⟨10, 10, 100, 50⟩ : Box ℝ) = ⟨60, 35⟩ := by
    ext <;> norm_num [Box.center]
  rw [bounds_inverted, Box.containsRotated,
    Box.normalized_of_nonneg _ (by norm_num) (by norm_num), hcenter, Point.rotate_self,
    Box.contains_iff]
  norm_num

lemma carriedInverted_eq : carriedInverted =
    { Editor.new with
      sheet := ⟨[inverted.translate 15 (-15)]⟩
      selected := some (.ofNat 1)
      gesture := .dragging (.ofNat 1) ⟨75, 20⟩ 10 10 } := by
  have hfound : (⟨[inverted]⟩ : Sheet ℝ).get? (.ofNat 1) = some inverted := by
    simp [Sheet.get?, inverted]
  have hhit : (⟨[inverted]⟩ : Sheet ℝ).hit? none ⟨60, 35⟩ = some ⟨.ofNat 1, .body⟩ := by
    simp [Sheet.hit?, Sheet.topmostAt?, contains_inverted]
    rfl
  have hpress : ((Editor.new.load ⟨[inverted]⟩).press ⟨60, 35⟩ .primary).1 =
      { Editor.new with
        sheet := ⟨[inverted]⟩
        selected := some (.ofNat 1)
        gesture := .begin inverted .body ⟨60, 35⟩ } := by
    have hgrab : (Editor.new.load ⟨[inverted]⟩).grab ⟨.ofNat 1, .body⟩ ⟨60, 35⟩ = _ :=
      grab_eq hfound (.inl rfl)
    simp only [press, load, Editor.new, ofSize, Gesture.isIdle, Tool.kind?, hhit]
    exact hgrab
  have hmoved : inverted.translate (75 - 60) (20 - 35) = inverted.translate 15 (-15) := by
    norm_num
  have hfollow : ({ Editor.new with
      sheet := ⟨[inverted]⟩
      selected := some (.ofNat 1)
      gesture := .begin inverted .body ⟨60, 35⟩ } : Editor ℝ).follow ⟨75, 20⟩ = _ :=
    follow_of_target rfl hfound
  show (((Editor.new.load ⟨[inverted]⟩).press ⟨60, 35⟩ .primary).1.follow ⟨75, 20⟩).1 = _
  rw [hpress, hfollow, ← hmoved]
  rfl

theorem size_and_rotation_in_range_inverted :
    inverted.normalize = inverted ∧ carriedInverted.NormalReachable ∧
      carriedInverted.gesture.target? = some (.ofNat 1) ∧
      inverted.translate 15 (-15) ∈ carriedInverted.sheet.shapes ∧
      0 ≤ (inverted.translate 15 (-15)).width ∧ 0 ≤ (inverted.translate 15 (-15)).height ∧
      0 ≤ (inverted.translate 15 (-15)).rotation ∧
      (inverted.translate 15 (-15)).rotation < 2 * Real.pi := by
  have hnormal : inverted.normalize = inverted := by
    rw [Shape.normalize_eq_self_iff]
    refine ⟨by norm_num [inverted], by norm_num [inverted], Real.pi_pos.le, ?_⟩
    show Real.pi < 2 * Real.pi
    linarith [Real.pi_pos]
  have hreachable : carriedInverted.NormalReachable :=
    normalReachable_run (.load _ (by simpa using hnormal)) _
  have hmem : inverted.translate 15 (-15) ∈ carriedInverted.sheet.shapes := by
    rw [carriedInverted_eq]
    exact List.mem_singleton_self _
  exact ⟨hnormal, hreachable, by rw [carriedInverted_eq]; rfl, hmem,
    size_and_rotation_in_range hreachable _ hmem⟩

end Editor

end Atelier

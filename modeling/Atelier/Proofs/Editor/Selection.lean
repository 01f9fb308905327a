/-
The selection, and what the pointer holds.

In a reachable state the selected shape is on the sheet, and a gesture on a shape is a gesture
on the selected one (`Reachable.consistent`).  Whatever the host does, selection, gesture and
sheet fit together (`selected_held_preview`).
-/
import Mathlib.Tactic.Common
import Atelier.Proofs.Editor.Step

namespace Atelier.Editor

variable {α : Type}

/-- The selection names a shape of the sheet, and the gesture changes that shape. -/
structure Consistent (e : Editor α) : Prop where
  present : ∀ id, e.selected = some id → (e.sheet.get? id).isSome
  held : ∀ id, e.gesture.target? = some id → e.selected = some id

/-- Without a selection and a gesture there is nothing to ask for. -/
lemma consistent_of_idle {e : Editor α} (hselected : e.selected = none)
    (hidle : e.gesture = .idle) : e.Consistent :=
  ⟨by simp [hselected], by simp [hidle]⟩

variable [Scalar α]

/-- What every event does to the selection. -/
lemma Step.consistent {e e' : Editor α} {event : Event α} {actions : List (Action α)}
    (h : Step e event actions e') (he : e.Consistent) : e'.Consistent := by
  cases h with
  | ignore => exact he
  | setTool tool => exact ⟨he.present, he.held⟩
  | draw | stretch => exact ⟨he.present, by simp⟩
  | @grab p s grip hidle htool hhit hfound =>
    refine ⟨fun id hid => ?_, fun id hid => ?_⟩
    · obtain rfl : s.id = id := Option.some.inj hid
      simp [hfound]
    · rwa [Gesture.target?_begin] at hid
  | deselect hidle => exact consistent_of_idle rfl hidle
  | @change p id s hg hfound =>
    refine ⟨fun other hother => ?_, fun other hother => ?_⟩
    · rw [Sheet.isSome_get?_modify (e.gesture.keepsId_apply p)]
      exact he.present other hother
    · exact he.held other (by simpa using hother)
  | lose | add => exact consistent_of_idle rfl rfl
  | @report p _ id | @settle p _ id =>
    refine ⟨fun other hother => ?_, by simp⟩
    rw [Sheet.isSome_get?_modify (e.gesture.keepsId_apply p)]
    exact he.present other hother
  | cancel => exact consistent_of_idle rfl (gesture_cancel e)
  | delete _ hidle | forget _ hidle => exact consistent_of_idle rfl hidle

lemma Reachable.consistent {e : Editor α} (h : e.Reachable) : e.Consistent := by
  induction h with
  | ofSize | load => exact consistent_of_idle rfl rfl
  | @handle e event _ ih => exact (step_handle e event).consistent ih

/-- A shape is shown beside the sheet while it is being dragged out, and only then. -/
lemma isSome_preview_iff (e : Editor α) (fresh : ShapeId) :
    (e.preview fresh).isSome ↔ ∃ kind anchor current, e.gesture = .drawing kind anchor current := by
  constructor
  · intro h
    cases hg : e.gesture with
    | drawing kind anchor current => exact ⟨kind, anchor, current, rfl⟩
    | idle | dragging | resizing | rotating => simp [preview, hg] at h
  · rintro ⟨kind, anchor, current, hg⟩
    simp [preview, hg]

/-- In every reachable state the selection names a shape of the sheet, a gesture that drags,
resizes or turns a shape has the selected shape in hold, and a shape is shown beside the sheet
exactly while one is being dragged out. -/
theorem selected_held_preview {e : Editor α} (h : e.Reachable) :
    (∀ id, e.selected = some id → ∃ s ∈ e.sheet.shapes, s.id = id) ∧
      (∀ id, e.gesture.target? = some id →
        e.selected = some id ∧ ∃ s ∈ e.sheet.shapes, s.id = id) ∧
      ∀ fresh, (e.preview fresh).isSome ↔
        ∃ kind anchor current, e.gesture = .drawing kind anchor current := by
  have hconsistent := h.consistent
  have hpresent : ∀ id, e.selected = some id → ∃ s ∈ e.sheet.shapes, s.id = id := by
    intro id hid
    have hmem := Sheet.isSome_get?_iff.1 (hconsistent.present id hid)
    simpa using hmem
  refine ⟨hpresent, fun id hid => ?_, isSome_preview_iff e⟩
  have hselected := hconsistent.held id hid
  exact ⟨hselected, hpresent id hselected⟩

/-- Two shapes have one identifier.  A press on the upper one drags the lower one, and another
tool, a second press and Delete come in between. -/
def dragged : Editor Float :=
  ((Editor.new.load
    ⟨[⟨.ofNat 1, .ellipse, 100, 100, 40, 30, 0, .descending, .default⟩,
      ⟨.ofNat 1, .rectangle, 50, 90, 60, 60, 0, .descending, .default⟩,
      ⟨.ofNat 2, .line, 0, 0, 20, 20, 0, .ascending, .default⟩]⟩).run
    [.press ⟨60, 100⟩ .primary, .move ⟨75, 130⟩, .setTool (.draw .triangle),
      .press ⟨300, 300⟩ .primary, .key ⟨"Delete"⟩]).1

theorem selected_held_preview_dragged :
    dragged.Reachable ∧ dragged.gesture.target? = some (.ofNat 1) ∧
      dragged.selected = some (.ofNat 1) ∧ (∃ s ∈ dragged.sheet.shapes, s.id = .ofNat 1) ∧
        (dragged.preview (.ofNat 9)).isSome = false := by
  have hreachable : dragged.Reachable := reachable_run (.load _ (.ofSize _ _)) _
  obtain ⟨-, hheld, hpreview⟩ := selected_held_preview hreachable
  have htarget : dragged.gesture.target? = some (.ofNat 1) := by decide +kernel
  obtain ⟨hselected, hpresent⟩ := hheld (.ofNat 1) htarget
  refine ⟨hreachable, htarget, hselected, hpresent, ?_⟩
  rw [Bool.eq_false_iff, Ne, hpreview]
  rintro ⟨kind, anchor, current, hdrawing⟩
  simp [hdrawing] at htarget

end Atelier.Editor

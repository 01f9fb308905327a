/-
Cancelling a gesture.

The baseline of an editor is the sheet as it would be if its gesture were cancelled.  As long
as a gesture goes on, no event changes the baseline (`Holding.step`), whatever the gesture does
to its shape meanwhile; a press starts a gesture with the sheet itself as the baseline.  So
Escape gives back the sheet of the press.  Nothing is asked of the sheet: identifiers may
repeat, and sizes may be negative.
-/
import Mathlib.Tactic.Common
import Atelier.Proofs.Editor.Step

namespace Atelier

/-- Whether an event can end a gesture by the will of the user: the release of the primary
button, or Escape. -/
def Event.endsGesture {α : Type} : Event α → Bool
  | .release _ button _ => button = .primary
  | .key pressed => pressed.isEscape
  | _ => false

namespace Editor

variable {α : Type}

/-! ## The baseline -/

/-- The sheet as it would be if the gesture were cancelled. -/
def baseline (e : Editor α) : Sheet α :=
  e.cancel.sheet

/-- Only the sheet and the gesture matter. -/
lemma baseline_eq (e : Editor α) :
    e.baseline =
      match e.gesture.target? with
      | some id => e.sheet.modify id e.gesture.restore
      | none => e.sheet := by
  unfold baseline cancel
  cases e.gesture.target? <;> rfl

lemma baseline_of_target {e : Editor α} {id : ShapeId} (h : e.gesture.target? = some id) :
    e.baseline = e.sheet.modify id e.gesture.restore := by
  rw [baseline_eq, h]

lemma baseline_of_no_target {e : Editor α} (h : e.gesture.target? = none) :
    e.baseline = e.sheet := by
  rw [baseline_eq, h]

lemma baseline_of_idle {e : Editor α} (h : e.gesture = .idle) : e.baseline = e.sheet :=
  baseline_of_no_target (by rw [h, Gesture.target?_idle])

lemma baseline_of_drawing {e : Editor α} {kind : ShapeKind} {anchor current : Point α}
    (h : e.gesture = .drawing kind anchor current) : e.baseline = e.sheet :=
  baseline_of_no_target (by rw [h, Gesture.target?_drawing])

variable [Scalar α]

/-- A gesture on a shape begins with the sheet itself as its baseline. -/
lemma baseline_begin {e : Editor α} {s : Shape α} {grip : Grip} {p : Point α}
    (hgesture : e.gesture = .begin s grip p) (hfound : e.sheet.get? s.id = some s) :
    e.baseline = e.sheet := by
  have htarget : e.gesture.target? = some s.id := by rw [hgesture, Gesture.target?_begin]
  rw [baseline_of_target htarget, hgesture]
  exact Sheet.modify_eq_self hfound (Gesture.restore_begin s grip p)

/-- Following the pointer changes the shape, and leaves what cancelling would restore. -/
lemma baseline_change {e e' : Editor α} {id : ShapeId} {p : Point α}
    (htarget : e.gesture.target? = some id)
    (hsheet : e'.sheet = e.sheet.modify id (e.gesture.apply p))
    (hgesture : e'.gesture = e.gesture.follow p) : e'.baseline = e.baseline := by
  have htarget' : e'.gesture.target? = some id := by rw [hgesture, Gesture.target?_follow, htarget]
  have hrestore : e.gesture.restore ∘ e.gesture.apply p = e.gesture.restore := by
    funext s
    exact e.gesture.restore_apply p s
  rw [baseline_of_target htarget', baseline_of_target htarget, hsheet, hgesture,
    Gesture.restore_follow, Sheet.modify_modify (e.gesture.keepsId_apply p), hrestore]

/-! ## A gesture that goes on -/

/-- A gesture is going on, and the shape that it changes is there. -/
structure Holding (e : Editor α) : Prop where
  busy : e.gesture ≠ .idle
  present : ∀ id, e.gesture.target? = some id → (e.sheet.get? id).isSome

/-- A press that starts a gesture takes the sheet as its baseline. -/
lemma holding_press {e : Editor α} {p : Point α} {button : Button} (hidle : e.gesture = .idle)
    (hstart : (e.press p button).1.gesture ≠ .idle) :
    Holding (e.press p button).1 ∧ (e.press p button).1.baseline = e.sheet := by
  have hstep := step_press e p button
  generalize (e.press p button).2 = actions at hstep
  generalize (e.press p button).1 = e' at hstep hstart ⊢
  cases hstep with
  | ignore => exact absurd hidle hstart
  | draw => exact ⟨⟨by simp, by simp⟩, baseline_of_drawing rfl⟩
  | @grab _ s grip _ _ _ hfound =>
    refine ⟨⟨hstart, fun id hid => ?_⟩, baseline_begin rfl hfound⟩
    obtain rfl : s.id = id := by simpa using hid
    simp [hfound]
  | deselect => exact absurd hidle hstart
  | lose _ _ hpointer => simp at hpointer

/-- What every event does to a gesture that it does not end. -/
lemma Holding.step {e : Editor α} {event : Event α} (h : e.Holding)
    (hevent : event.endsGesture = false) :
    Holding (e.handle event).1 ∧ (e.handle event).1.baseline = e.baseline := by
  have hstep := step_handle e event
  generalize (e.handle event).2 = actions at hstep
  generalize (e.handle event).1 = e' at hstep ⊢
  cases hstep with
  | ignore => exact ⟨h, rfl⟩
  | setTool tool => exact ⟨⟨h.busy, h.present⟩, by rw [baseline_eq, baseline_eq]⟩
  | stretch hg =>
    refine ⟨⟨by simp, by simp⟩, ?_⟩
    rw [baseline_of_drawing rfl, baseline_of_drawing hg]
  | @change p id s hg hfound =>
    have hg' : (e.gesture.follow p).target? = some id := by simpa using hg
    refine ⟨⟨fun hidle => ?_, fun other hother => ?_⟩, baseline_change hg rfl rfl⟩
    · -- Following the pointer keeps the target, and an idle gesture has none.
      simp [show e.gesture.follow p = .idle from hidle] at hg'
    · rw [Sheet.isSome_get?_modify (e.gesture.keepsId_apply p)]
      exact h.present other (by simpa using hother)
  | lose hg hgone => simpa [hgone] using h.present _ hg
  -- These are the events that end a gesture, or do not happen during one.
  | add | report | settle => simp [Event.endsGesture] at hevent
  | cancel hescape => simp [Event.endsGesture, hescape] at hevent
  | draw hidle | grab hidle | deselect hidle | delete _ hidle | forget _ hidle =>
    exact absurd hidle h.busy

/-- Escape undoes a gesture.  A press starts one; whatever happens next, short of the release
of the primary button or Escape, an Escape then leaves no gesture, no selection, no shape that
is being dragged out, and the sheet of the press. -/
theorem escape_undoes {e : Editor α} {p : Point α} {events : List (Event α)} {escape : Key}
    (hidle : e.gesture = .idle) (hstart : (e.press p .primary).1.gesture ≠ .idle)
    (hevents : ∀ event ∈ events, event.endsGesture = false) (hescape : escape.isEscape = true) :
    let before := ((e.press p .primary).1.run events).1
    let after := (before.pressKey escape).1
    after.gesture = .idle ∧ after.selected = none ∧ (∀ id, after.preview id = none) ∧
      after.sheet = e.sheet := by
  intro before after
  obtain ⟨hholding, hbaseline⟩ := holding_press hidle hstart
  have hrun : Holding before ∧ before.baseline = e.sheet := by
    refine run_induction (P := fun e' => e'.Holding ∧ e'.baseline = e.sheet) ?_
      ⟨hholding, hbaseline⟩
    rintro e' ⟨hheld, he'⟩ event hevent
    obtain ⟨hnext, hsame⟩ := hheld.step (hevents event hevent)
    exact ⟨hnext, hsame.trans he'⟩
  have hafter : after = { before.cancel with selected := none } := by
    simp [after, pressKey, hescape]
  have hgesture : after.gesture = .idle := by
    rw [hafter]
    exact gesture_cancel before
  refine ⟨hgesture, by rw [hafter], fun id => by simp [preview, hgesture], ?_⟩
  rw [hafter]
  exact hrun.2

/-- Two shapes with one identifier.  The lower one, which the identifier addresses, has a
negative width and a rotation of more than a turn. -/
def twins : Editor Float :=
  Editor.new.load
    ⟨[⟨.ofNat 1, .triangle, 100, 100, -40, 30, 7, .descending, ⟨"red", "#000000", 1⟩⟩,
      ⟨.ofNat 1, .rectangle, 50, 90, 60, 60, 0, .descending, .default⟩]⟩

/-- Among them other buttons, another tool, a further press and Delete. -/
def twinsEvents : List (Event Float) :=
  [.move ⟨130, 95⟩, .setTool (.draw .line), .press ⟨0, 0⟩ .secondary, .press ⟨55, 95⟩ .primary,
    .key ⟨"Delete"⟩, .release ⟨1, 1⟩ .middle (.ofNat 9), .move ⟨-20, 33.5⟩]

theorem escape_undoes_twins :
    (twins.press ⟨70, 120⟩ .primary).1.gesture ≠ .idle ∧
      (∀ event ∈ twinsEvents, event.endsGesture = false) ∧
      ((twins.press ⟨70, 120⟩ .primary).1.run twinsEvents).1.sheet ≠ twins.sheet ∧
      (((twins.press ⟨70, 120⟩ .primary).1.run twinsEvents).1.pressKey ⟨"Escape"⟩).1.sheet
        = twins.sheet :=
  have hstart : (twins.press ⟨70, 120⟩ .primary).1.gesture ≠ .idle := by decide +kernel
  have hevents : ∀ event ∈ twinsEvents, event.endsGesture = false := by
    simp [twinsEvents, Event.endsGesture, Key.isEscape]
  ⟨hstart, hevents, by decide +kernel,
    (escape_undoes (by rfl) hstart hevents (by decide)).2.2.2⟩

end Editor

end Atelier

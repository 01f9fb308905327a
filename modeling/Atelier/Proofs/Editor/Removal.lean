/-
A host that takes shapes away.

Between two events the host can remove shapes from the sheet, also the one that the pointer
holds.  An event then still changes no shape but the one that it is about (`Touches`).  A gesture
whose shape is gone stays as it is until the pointer moves, the primary button is released or
Escape is pressed, and ends there with the sheet as it is and without a selection
(`removals_degrade`).
-/
import Mathlib.Tactic.Common
import Atelier.Proofs.Editor.Cancel

namespace Atelier

/-- What can happen to an editor whose host removes shapes between events. -/
inductive Happening (α : Type) where
  | event (event : Event α)
  /-- The host removes the shape of an identifier, if there is one. -/
  | remove (id : ShapeId)

/-- Whether it ends a gesture whose shape is gone. -/
def Happening.settles {α : Type} : Happening α → Bool
  | event (.move _) => true
  | event e => e.endsGesture
  | remove _ => false

namespace Editor

variable {α : Type}

/-- The editor without a selection and a gesture, its shapes as they are. -/
def rest (e : Editor α) : Editor α :=
  { e with selected := none, gesture := .idle }

/-- The gesture is about a shape that is not on the sheet. -/
structure Lost (e : Editor α) (id : ShapeId) : Prop where
  target : e.gesture.target? = some id
  gone : e.sheet.get? id = none

variable {e e' : Editor α} {id : ShapeId}

namespace Lost

/-- A gesture has a target only if there is one. -/
lemma busy (h : e.Lost id) : e.gesture ≠ .idle := by
  intro hidle
  have htarget := h.target
  rw [hidle] at htarget
  cases htarget

lemma escape (h : e.Lost id) {key : Key} (hescape : key.isEscape = true) :
    e.pressKey key = (e.rest, [.render]) := by
  have hcancel : e.cancel = { e with gesture := .idle } := by
    unfold cancel
    simp only [h.target, Sheet.modify_of_get?_eq_none h.gone]
  rw [pressKey, if_pos hescape, hcancel]
  rfl

end Lost

lemma isEscape_of_isDelete {key : Key} (hdelete : key.isDelete = true) : key.isEscape = false := by
  simp only [Key.isDelete, Bool.or_eq_true, decide_eq_true_eq] at hdelete
  rcases hdelete with hname | hname <;> simp [Key.isEscape, hname]

/-- During a gesture Delete does nothing, whatever is selected. -/
lemma pressKey_delete_of_busy {key : Key} (hdelete : key.isDelete = true)
    (hbusy : e.gesture.isIdle = false) : e.pressKey key = (e, []) := by
  simp [pressKey, isEscape_of_isDelete hdelete, hbusy]

/-- Between gestures Delete clears a selection whose shape is gone. -/
lemma pressKey_delete_of_gone {key : Key} (hdelete : key.isDelete = true)
    (hidle : e.gesture.isIdle = true) (hselected : e.selected = some id)
    (hgone : e.sheet.get? id = none) : e.pressKey key = ({ e with selected := none }, []) := by
  simp [pressKey, isEscape_of_isDelete hdelete, hdelete, hidle, hselected, hgone]

variable [Scalar α]

/-- The editor after one happening. -/
def undergo (e : Editor α) : Happening α → Editor α
  | .event event => (e.handle event).1
  | .remove id => { e with sheet := e.sheet.remove id }

/-- The editor after some happenings. -/
def after (e : Editor α) (happenings : List (Happening α)) : Editor α :=
  happenings.foldl undergo e

/-- What an event can make of the shapes of the sheet. -/
inductive Touches (e : Editor α) : Event α → List (Shape α) → Prop where
  /-- It changes, adds and removes no shape. -/
  | nothing (event : Event α) : Touches e event e.sheet.shapes
  /-- The pointer carries the shape that it holds. -/
  | carry {event : Event α} {p : Point α} {id : ShapeId} {below above : List (Shape α)}
      {s : Shape α} (target : e.gesture.target? = some id) (place : e.sheet.Place id below s above)
      (pointer : event = .move p ∨ ∃ fresh, event = .release p .primary fresh) :
      Touches e event (below ++ e.gesture.apply p s :: above)
  /-- A release puts the shape that was dragged out on top. -/
  | commit {kind : ShapeKind} {anchor current p : Point α} {fresh : ShapeId}
      (drawing : e.gesture = .drawing kind anchor current) :
      Touches e (.release p .primary fresh)
        (e.sheet.shapes ++ [(Shape.ofDrag fresh kind anchor p).normalize])
  /-- Escape gives the shape that the pointer holds what the gesture changed of it. -/
  | cancel {key : Key} {id : ShapeId} {below above : List (Shape α)} {s : Shape α}
      (escape : key.isEscape = true) (target : e.gesture.target? = some id)
      (place : e.sheet.Place id below s above) :
      Touches e (.key key) (below ++ e.gesture.restore s :: above)
  /-- Delete removes the selected shape. -/
  | delete {key : Key} {id : ShapeId} {below above : List (Shape α)} {s : Shape α}
      (deletes : key.isDelete = true) (idle : e.gesture = .idle) (selected : e.selected = some id)
      (place : e.sheet.Place id below s above) : Touches e (.key key) (below ++ above)

/-! ## What an event touches -/

/-- Escape touches the shape that is held, if it is there. -/
lemma touches_cancel {key : Key} (hescape : key.isEscape = true) :
    e.Touches (.key key) e.cancel.sheet.shapes := by
  cases htarget : e.gesture.target? with
  | none =>
    have hsheet : e.cancel.sheet = e.sheet := baseline_of_no_target htarget
    rw [hsheet]
    exact .nothing _
  | some id =>
    have hsheet : e.cancel.sheet = e.sheet.modify id e.gesture.restore := baseline_of_target htarget
    rw [hsheet]
    cases hs : e.sheet.get? id with
    | none =>
      rw [Sheet.modify_of_get?_eq_none hs]
      exact .nothing _
    | some s =>
      obtain ⟨below, above, hplace⟩ := Sheet.exists_place hs
      rw [hplace.modify]
      exact .cancel hescape htarget hplace

lemma Step.touches {event : Event α} {actions : List (Action α)} (h : Step e event actions e') :
    e.Touches event e'.sheet.shapes := by
  cases h with
  | ignore | setTool | draw | grab | deselect | stretch | lose | forget => exact .nothing _
  | @change p id s htarget hs =>
    obtain ⟨below, above, hplace⟩ := Sheet.exists_place hs
    rw [hplace.modify]
    exact .carry htarget hplace (.inl rfl)
  | add hdrawing => exact .commit hdrawing
  | @report p fresh id s htarget hs | @settle p fresh id s htarget hs =>
    obtain ⟨below, above, hplace⟩ := Sheet.exists_place hs
    rw [hplace.modify]
    exact .carry htarget hplace (.inr ⟨fresh, rfl⟩)
  | cancel hescape => exact touches_cancel hescape
  | @delete key id s hdelete hidle hselected hs =>
    obtain ⟨below, above, hplace⟩ := Sheet.exists_place hs
    rw [hplace.remove]
    exact .delete hdelete hidle hselected hplace

/-! ## A gesture whose shape is gone -/

namespace Lost

lemma follow (h : e.Lost id) (p : Point α) : e.follow p = (e.rest, false) := by
  rcases follow_cases e p with ⟨hidle, -⟩ | ⟨kind, anchor, current, hdrawing, -⟩ |
    ⟨other, s, hother, hs, -⟩ | ⟨-, -, -, hfollow⟩
  · exact absurd hidle h.busy
  · have htarget := h.target
    rw [hdrawing] at htarget
    cases htarget
  · obtain rfl : id = other := Option.some.inj (h.target.symm.trans hother)
    exact absurd hs (by simp [h.gone])
  · exact hfollow

lemma move (h : e.Lost id) (p : Point α) : e.move p = (e.rest, []) := by
  rw [Editor.move, h.follow p]
  rfl

lemma release (h : e.Lost id) (p : Point α) (fresh : ShapeId) :
    e.release p .primary fresh = (e.rest, []) := by
  rw [Editor.release, if_neg (by simp), h.follow p]
  rfl

/-- Whatever else happens, the shape does not come back, and the gesture waits for it. -/
lemma undergo (h : e.Lost id) {happening : Happening α} (hwait : happening.settles = false) :
    (e.undergo happening).Lost id ∧ (e.undergo happening).gesture = e.gesture := by
  cases happening with
  | remove other => exact ⟨⟨h.target, Sheet.get?_remove_eq_none h.gone⟩, rfl⟩
  | event event =>
    have hstep := step_handle e event
    simp only [Editor.undergo]
    generalize (e.handle event).2 = actions at hstep
    generalize (e.handle event).1 = e' at hstep ⊢
    cases hstep with
    | ignore | setTool => exact ⟨⟨h.target, h.gone⟩, rfl⟩
    | draw hidle | grab hidle | deselect hidle | delete _ hidle | forget _ hidle =>
      exact absurd hidle h.busy
    | stretch | change => cases hwait
    | lose _ _ hpointer =>
      obtain ⟨p, rfl | ⟨fresh, rfl⟩⟩ := hpointer
      · cases hwait
      · cases hwait
    | add | report | settle => cases hwait
    | cancel hescape => simp [Happening.settles, Event.endsGesture, hescape] at hwait

lemma after (h : e.Lost id) {waiting : List (Happening α)}
    (hwait : ∀ happening ∈ waiting, happening.settles = false) :
    (e.after waiting).Lost id ∧ (e.after waiting).gesture = e.gesture := by
  induction waiting generalizing e with
  | nil => exact ⟨h, rfl⟩
  | cons happening waiting ih =>
    obtain ⟨hnext, hgesture⟩ := h.undergo (hwait happening (by simp))
    obtain ⟨hlater, hsame⟩ := ih hnext fun other hother => hwait other (by simp [hother])
    exact ⟨hlater, hsame.trans hgesture⟩

end Lost

/-- A host can remove any shapes between events, and events still do no more than they say.
Each of them touches the shape that it is about only.  Once the shape of a gesture is gone, the
gesture waits; the next move of the pointer, release of the primary button or Escape ends it, with
the sheet as it is and without a selection.  Delete clears a selection whose shape is gone, if
there is no gesture, and does nothing at all during one. -/
theorem removals_degrade (e : Editor α) (happenings : List (Happening α)) :
    let before := e.after happenings
    (∀ event, before.Touches event (before.handle event).1.sheet.shapes) ∧
    (∀ id, before.gesture.target? = some id → before.sheet.get? id = none →
      ∀ waiting : List (Happening α), (∀ happening ∈ waiting, happening.settles = false) →
        let lost := before.after waiting
        lost.gesture = before.gesture ∧
        (∀ p, lost.handle (.move p) = (lost.rest, [])) ∧
        (∀ p fresh, lost.handle (.release p .primary fresh) = (lost.rest, [])) ∧
        ∀ key, key.isEscape = true → lost.handle (.key key) = (lost.rest, [.render])) ∧
    ∀ key, key.isDelete = true →
      (before.gesture.isIdle = false → before.handle (.key key) = (before, [])) ∧
      ∀ id, before.gesture.isIdle = true → before.selected = some id →
        before.sheet.get? id = none →
        before.handle (.key key) = ({ before with selected := none }, []) := by
  intro before
  refine ⟨fun event => (step_handle before event).touches, ?_, fun key hdelete => ⟨?_, ?_⟩⟩
  · intro id htarget hgone waiting hwait lost
    obtain ⟨hlost, hgesture⟩ := Lost.after ⟨htarget, hgone⟩ hwait
    exact ⟨hgesture, hlost.move, hlost.release, fun key => hlost.escape⟩
  · exact pressKey_delete_of_busy hdelete
  · intro id hidle hselected hgone
    exact pressKey_delete_of_gone hdelete hidle hselected hgone

/-- A rectangle and an ellipse. -/
def setting : Editor Float :=
  Editor.new.load
    ⟨[⟨.ofNat 1, .rectangle, 10, 10, 100, 50, 0, .descending, .default⟩,
      ⟨.ofNat 2, .ellipse, 200, 200, 40, 30, 0, .descending, .default⟩]⟩

/-- The host removes the rectangle while the pointer drags it. -/
def takenFromHand : List (Happening Float) :=
  [.event (.press ⟨50, 30⟩ .primary), .event (.move ⟨55, 40⟩), .remove (.ofNat 1)]

/-- The host removes the rectangle after the pointer has let it go. -/
def takenFromRest : List (Happening Float) :=
  [.event (.press ⟨50, 30⟩ .primary), .event (.release ⟨55, 40⟩ .primary (.ofNat 9)),
    .remove (.ofNat 1)]

/-- Events that do not end the gesture, and a removal of a shape that was never there. -/
def idling : List (Happening Float) :=
  [.event (.setTool (.draw .line)), .event (.press ⟨210, 210⟩ .primary), .remove (.ofNat 3),
    .event (.key ⟨"Delete"⟩), .event (.release ⟨0, 0⟩ .middle (.ofNat 9))]

theorem removals_degrade_setting :
    let held := setting.after takenFromHand
    let lost := held.after idling
    let unheld := setting.after takenFromRest
    held.gesture.target? = some (.ofNat 1) ∧ held.sheet.get? (.ofNat 1) = none ∧
      (∀ happening ∈ idling, happening.settles = false) ∧
      lost.handle (.move ⟨60, 40⟩) = (lost.rest, []) ∧
      lost.rest.sheet.shapes.map Shape.id = [.ofNat 2] ∧
      held.handle (.key ⟨"Delete"⟩) = (held, []) ∧
      unheld.selected = some (.ofNat 1) ∧ unheld.sheet.get? (.ofNat 1) = none ∧
      unheld.handle (.key ⟨"Delete"⟩) = ({ unheld with selected := none }, []) := by
  intro held lost unheld
  have htarget : held.gesture.target? = some (.ofNat 1) := by decide +kernel
  have hgone : held.sheet.get? (.ofNat 1) = none := by decide +kernel
  have hidling : ∀ happening ∈ idling, happening.settles = false := by
    simp [idling, Happening.settles, Event.endsGesture, Key.isEscape]
  have hselected : unheld.selected = some (.ofNat 1) := by decide +kernel
  have hgone' : unheld.sheet.get? (.ofNat 1) = none := by decide +kernel
  have hidle : unheld.gesture.isIdle = true := by decide +kernel
  have hbusy : held.gesture.isIdle = false := by decide +kernel
  have hname : (Key.mk "Delete").isDelete = true := by decide
  obtain ⟨-, hlost, hignored⟩ := removals_degrade setting takenFromHand
  obtain ⟨-, -, hdelete⟩ := removals_degrade setting takenFromRest
  exact ⟨htarget, hgone, hidling, (hlost _ htarget hgone _ hidling).2.1 _, by decide +kernel,
    (hignored _ hname).1 hbusy, hselected, hgone',
    (hdelete _ hname).2 (.ofNat 1) hidle hselected hgone'⟩

/-- Delete does not always clear a selection whose shape is gone: it does not while the gesture on
the shape goes on. -/
theorem delete_not_always_deselects :
    ¬ ∀ (happenings : List (Happening Float)) (key : Key) (id : ShapeId), key.isDelete = true →
      (setting.after happenings).selected = some id →
      (setting.after happenings).sheet.get? id = none →
      ((setting.after happenings).handle (.key key)).1.selected = none := by
  intro h
  have hnone := h takenFromHand ⟨"Delete"⟩ (.ofNat 1) (by decide) (by decide +kernel)
    (by decide +kernel)
  have hkept : ((setting.after takenFromHand).handle (.key ⟨"Delete"⟩)).1.selected =
      some (.ofNat 1) := by decide +kernel
  simp [hnone] at hkept

end Editor

end Atelier

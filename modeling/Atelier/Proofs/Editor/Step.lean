/-
Events, runs, and what one event can do to an editor.

`Step` lists the ways in which an editor answers an event, with the condition under which each
of them is taken; `step_handle` says that there is no other.  A property that every step keeps
holds after every run, and in every reachable state.
-/
import Mathlib.Tactic.Common
import Atelier.Proofs.Editor.Gesture

namespace Atelier

/-- What can happen to an editor. -/
inductive Event (α : Type) where
  | setTool (tool : Tool)
  | press (p : Point α) (button : Button)
  | move (p : Point α)
  /-- A release; `fresh` is the identifier for a shape that was dragged out. -/
  | release (p : Point α) (button : Button) (fresh : ShapeId)
  | key (key : Key)

/-- What is under a point is on the sheet, and a handle belongs to the selected shape. -/
lemma Sheet.get?_of_hit? {α : Type} [Scalar α] {sheet : Sheet α} {selected : Option ShapeId}
    {p : Point α} {hit : Hit} (h : sheet.hit? selected p = some hit) :
    (∃ s, sheet.get? hit.id = some s) ∧ (hit.grip = .body ∨ selected = some hit.id) := by
  simp only [hit?, Option.orElse_eq_orElse, Option.orElse_eq_or, Option.or_eq_some_iff,
    Option.bind_eq_bind, Option.bind_eq_some_iff, Option.map_eq_some_iff] at h
  rcases h with ⟨id, hid, s, hs, grip, -, hhit⟩ | ⟨-, t, ht, hhit⟩
  · have hsid : s.id = id := id_of_get? hs
    obtain rfl := Option.some.inj hhit
    exact ⟨⟨s, by simpa [hsid] using hs⟩, .inr (by simpa [hsid] using hid)⟩
  · subst hhit
    have hmem : t ∈ sheet.shapes := by simpa using List.mem_of_find?_eq_some ht
    have hfound : (sheet.get? t.id).isSome :=
      isSome_get?_iff.2 (List.mem_map_of_mem hmem)
    exact ⟨Option.isSome_iff_exists.1 hfound, .inl rfl⟩

namespace Editor

variable {α : Type}

lemma gesture_cancel (e : Editor α) : e.cancel.gesture = .idle := by
  unfold cancel
  split <;> rfl

variable [Scalar α]

/-- The editor after an event, and what the host has to do. -/
def handle (e : Editor α) : Event α → Editor α × List (Action α)
  | .setTool tool => e.setTool tool
  | .press p button => e.press p button
  | .move p => e.move p
  | .release p button fresh => e.release p button fresh
  | .key key => e.pressKey key

/-- The editor after a run of events, and all that the host has to do, in order. -/
def run (e : Editor α) : List (Event α) → Editor α × List (Action α)
  | [] => (e, [])
  | event :: rest =>
    let (e, actions) := e.handle event
    let (e, later) := e.run rest
    (e, actions ++ later)

/-- The editors that a host can bring about: by making one, by loading a sheet, and by events. -/
inductive Reachable : Editor α → Prop where
  | ofSize (width height : α) : Reachable (ofSize width height)
  | load {e : Editor α} (sheet : Sheet α) : Reachable e → Reachable (e.load sheet)
  | handle {e : Editor α} (event : Event α) : Reachable e → Reachable (e.handle event).1

/-! ## Steps -/

/-- How an editor answers an event: with actions, and with a next state. -/
inductive Step (e : Editor α) : Event α → List (Action α) → Editor α → Prop where
  | ignore (event : Event α) : Step e event [] e
  | setTool (tool : Tool) : Step e (.setTool tool) [.setCursor tool.cursor] { e with tool }
  /-- A press begins to drag out a shape. -/
  | draw {p : Point α} {kind : ShapeKind} (idle : e.gesture = .idle)
      (tool : e.tool.kind? = some kind) :
      Step e (.press p .primary) [.render] { e with gesture := .drawing kind p p }
  /-- A press takes hold of a shape, which is then selected if it was not before. -/
  | grab {p : Point α} {s : Shape α} {grip : Grip} (idle : e.gesture = .idle)
      (tool : e.tool.kind? = none) (hit : e.sheet.hit? e.selected p = some ⟨s.id, grip⟩)
      (found : e.sheet.get? s.id = some s) :
      Step e (.press p .primary) [.render]
        { e with selected := some s.id, gesture := .begin s grip p }
  /-- A press on nothing clears the selection. -/
  | deselect {p : Point α} (idle : e.gesture = .idle) (tool : e.tool.kind? = none)
      (nothing : e.sheet.hit? e.selected p = none) :
      Step e (.press p .primary) [.render] { e with selected := none }
  /-- A shape that is being dragged out follows the pointer. -/
  | stretch {p : Point α} {kind : ShapeKind} {anchor current : Point α}
      (drawing : e.gesture = .drawing kind anchor current) :
      Step e (.move p) [.render] { e with gesture := .drawing kind anchor p }
  /-- A shape of the sheet follows the pointer. -/
  | change {p : Point α} {id : ShapeId} {s : Shape α} (target : e.gesture.target? = some id)
      (found : e.sheet.get? id = some s) :
      Step e (.move p) [.render]
        { e with sheet := e.sheet.modify id (e.gesture.apply p), gesture := e.gesture.follow p }
  /-- The shape that the pointer holds is gone. -/
  | lose {event : Event α} {id : ShapeId} (target : e.gesture.target? = some id)
      (gone : e.sheet.get? id = none)
      (pointer : ∃ p, event = .move p ∨ ∃ fresh, event = .release p .primary fresh) :
      Step e event [] { e with selected := none, gesture := .idle }
  /-- A release puts the shape that was dragged out on the sheet. -/
  | add {p anchor current : Point α} {fresh : ShapeId} {kind : ShapeKind}
      (drawing : e.gesture = .drawing kind anchor current) :
      Step e (.release p .primary fresh)
        [.created (Shape.ofDrag fresh kind anchor p).normalize, .render]
        { e with
          sheet := e.sheet.add (Shape.ofDrag fresh kind anchor p).normalize
          selected := none
          gesture := .idle }
  /-- A release ends a gesture that has changed its shape. -/
  | report {p : Point α} {fresh id : ShapeId} {s : Shape α} (target : e.gesture.target? = some id)
      (found : e.sheet.get? id = some s)
      (changed : e.gesture.hasChanged (e.gesture.apply p s) = true) :
      Step e (.release p .primary fresh) [.updated (e.gesture.apply p s), .render]
        { e with sheet := e.sheet.modify id (e.gesture.apply p), gesture := .idle }
  /-- A release ends a gesture that has left its shape as it was at the press. -/
  | settle {p : Point α} {fresh id : ShapeId} {s : Shape α} (target : e.gesture.target? = some id)
      (found : e.sheet.get? id = some s)
      (unchanged : e.gesture.hasChanged (e.gesture.apply p s) = false) :
      Step e (.release p .primary fresh) []
        { e with sheet := e.sheet.modify id (e.gesture.apply p), gesture := .idle }
  /-- Escape. -/
  | cancel {key : Key} (escape : key.isEscape = true) :
      Step e (.key key) [.render] { e.cancel with selected := none }
  /-- Delete removes the selected shape. -/
  | delete {key : Key} {id : ShapeId} {s : Shape α} (deletes : key.isDelete = true)
      (idle : e.gesture = .idle) (selected : e.selected = some id)
      (found : e.sheet.get? id = some s) :
      Step e (.key key) [.deleted id, .render]
        { e with sheet := e.sheet.remove id, selected := none }
  /-- Delete finds the selected shape gone. -/
  | forget {key : Key} {id : ShapeId} (deletes : key.isDelete = true) (idle : e.gesture = .idle)
      (selected : e.selected = some id) (gone : e.sheet.get? id = none) :
      Step e (.key key) [] { e with selected := none }

variable {e : Editor α}

lemma grab_eq {hit : Hit} {s : Shape α} {p : Point α} (hfound : e.sheet.get? hit.id = some s)
    (hgrip : hit.grip = .body ∨ e.selected = some hit.id) :
    e.grab hit p = { e with selected := some hit.id, gesture := .begin s hit.grip p } := by
  obtain ⟨id, grip⟩ := hit
  obtain rfl := Sheet.id_of_get? hfound
  obtain ⟨sheet, tool, selected, gesture, width, height⟩ := e
  rcases hgrip with rfl | rfl
  · simp [grab, hfound, Gesture.begin]
  · cases grip <;> simp [grab, hfound, Gesture.begin]

lemma step_press (e : Editor α) (p : Point α) (button : Button) :
    Step e (.press p button) (e.press p button).2 (e.press p button).1 := by
  by_cases hignored : button ≠ .primary || !e.gesture.isIdle
  · rw [press, if_pos hignored]
    exact .ignore _
  · rw [press, if_neg hignored]
    obtain ⟨rfl, hidle⟩ : button = .primary ∧ e.gesture = .idle := by
      simpa [Gesture.isIdle_iff] using hignored
    cases htool : e.tool.kind? with
    | some kind => exact .draw hidle htool
    | none =>
      cases hhit : e.sheet.hit? e.selected p with
      | none => exact .deselect hidle htool hhit
      | some hit =>
        obtain ⟨⟨s, hs⟩, hgrip⟩ := Sheet.get?_of_hit? hhit
        have hsid : s.id = hit.id := Sheet.id_of_get? hs
        simp only [grab_eq hs hgrip, ← hsid] at hhit hs ⊢
        exact .grab hidle htool (hhit.trans (by rw [hsid])) hs

/-- The ways in which a gesture follows the pointer. -/
lemma follow_cases (e : Editor α) (p : Point α) :
    (e.gesture = .idle ∧ e.follow p = (e, false)) ∨
      (∃ kind anchor current, e.gesture = .drawing kind anchor current ∧
        e.follow p = ({ e with gesture := .drawing kind anchor p }, true)) ∨
      (∃ id s, e.gesture.target? = some id ∧ e.sheet.get? id = some s ∧
        e.follow p =
          ({ e with
              sheet := e.sheet.modify id (e.gesture.apply p)
              gesture := e.gesture.follow p }, true)) ∨
      (∃ id, e.gesture.target? = some id ∧ e.sheet.get? id = none ∧
        e.follow p = ({ e with gesture := .idle, selected := none }, false)) := by
  cases hg : e.gesture with
  | idle => exact .inl ⟨rfl, by simp [follow, hg]⟩
  | drawing kind anchor current =>
    exact .inr (.inl ⟨kind, anchor, current, rfl, by simp [follow, hg, Gesture.follow]⟩)
  | dragging id | resizing id | rotating id =>
    right; right
    cases hs : e.sheet.get? id with
    | some s => exact .inl ⟨id, s, rfl, hs, by simp [follow, hg, hs]⟩
    | none => exact .inr ⟨id, rfl, hs, by simp [follow, hg, hs]⟩

lemma step_move (e : Editor α) (p : Point α) : Step e (.move p) (e.move p).2 (e.move p).1 := by
  rcases follow_cases e p with ⟨-, h⟩ | ⟨kind, anchor, current, hg, h⟩ | ⟨id, s, hg, hs, h⟩ |
    ⟨id, hg, hs, h⟩ <;> simp only [move, h, if_true, Bool.false_eq_true, if_false]
  · exact .ignore _
  · exact .stretch hg
  · exact .change hg hs
  · exact .lose hg hs ⟨p, .inl rfl⟩

lemma commit_of_target {id : ShapeId} {s : Shape α} {fresh : ShapeId}
    (hg : e.gesture.target? = some id) (hs : e.sheet.get? id = some s) :
    e.commit fresh =
      ({ e with gesture := .idle },
        if e.gesture.hasChanged s then [.updated s, .render] else []) := by
  cases hgesture : e.gesture with
  | idle | drawing => simp [hgesture, Gesture.target?] at hg
  | dragging | resizing | rotating =>
    obtain rfl : _ = id := by simpa [hgesture, Gesture.target?] using hg
    simp [commit, hgesture, hs]

lemma follow_of_target {id : ShapeId} {s : Shape α} {p : Point α}
    (hg : e.gesture.target? = some id) (hs : e.sheet.get? id = some s) :
    e.follow p =
      ({ e with
          sheet := e.sheet.modify id (e.gesture.apply p)
          gesture := e.gesture.follow p }, true) := by
  rcases follow_cases e p with ⟨hidle, -⟩ | ⟨kind, anchor, current, hdrawing, -⟩ |
    ⟨other, t, hother, -, h⟩ | ⟨other, hother, hgone, -⟩
  · simp [hidle] at hg
  · simp [hdrawing] at hg
  · obtain rfl : id = other := Option.some.inj (hg.symm.trans hother)
    exact h
  · obtain rfl : id = other := Option.some.inj (hg.symm.trans hother)
    simp [hgone] at hs

/-- A release ends a gesture on a shape where the pointer is, and reports the shape if it has
changed. -/
lemma release_of_target {id : ShapeId} {s : Shape α} {p : Point α} {fresh : ShapeId}
    (hg : e.gesture.target? = some id) (hs : e.sheet.get? id = some s) :
    e.release p .primary fresh =
      ({ e with sheet := e.sheet.modify id (e.gesture.apply p), gesture := .idle },
        if e.gesture.hasChanged (e.gesture.apply p s) then
          [.updated (e.gesture.apply p s), .render]
        else []) := by
  have hs' : (e.sheet.modify id (e.gesture.apply p)).get? id = some (e.gesture.apply p s) := by
    rw [Sheet.get?_modify (e.gesture.keepsId_apply p), hs, Option.map_some]
  have hg' : (e.gesture.follow p).target? = some id := by rw [Gesture.target?_follow, hg]
  rw [release, if_neg (by simp), follow_of_target hg hs, commit_of_target hg' hs',
    Gesture.hasChanged_follow]

lemma step_release (e : Editor α) (p : Point α) (button : Button) (fresh : ShapeId) :
    Step e (.release p button fresh) (e.release p button fresh).2 (e.release p button fresh).1 := by
  by_cases hbutton : button ≠ .primary
  · rw [release, if_pos hbutton]
    exact .ignore _
  · rw [release, if_neg hbutton]
    obtain rfl := not_not.1 hbutton
    rcases follow_cases e p with ⟨hg, h⟩ | ⟨kind, anchor, current, hg, h⟩ | ⟨id, s, hg, hs, -⟩ |
      ⟨id, hg, hs, h⟩
    · rw [h]
      simp only [commit, hg]
      exact .ignore _
    · rw [h]
      exact .add hg
    · -- The pointer moves once more before the release is judged.
      have hrelease : e.release p .primary fresh = _ := release_of_target hg hs
      rw [release, if_neg (by simp)] at hrelease
      rw [hrelease]
      cases hchanged : e.gesture.hasChanged (e.gesture.apply p s) with
      | true => exact .report hg hs hchanged
      | false => exact .settle hg hs hchanged
    · rw [h]
      exact .lose hg hs ⟨p, .inr ⟨fresh, rfl⟩⟩

lemma step_key (e : Editor α) (key : Key) :
    Step e (.key key) (e.pressKey key).2 (e.pressKey key).1 := by
  by_cases hescape : key.isEscape
  · rw [pressKey, if_pos hescape]
    exact .cancel hescape
  · rw [pressKey, if_neg hescape]
    by_cases hdelete : key.isDelete && e.gesture.isIdle
    · rw [if_pos hdelete]
      rw [Bool.and_eq_true_iff] at hdelete
      have hidle : e.gesture = .idle := Gesture.isIdle_iff.1 hdelete.2
      cases hselected : e.selected with
      | none => exact .ignore _
      | some id =>
        cases hs : e.sheet.get? id with
        | some s =>
          simp only [hs]
          exact .delete hdelete.1 hidle hselected hs
        | none =>
          simp only [hs]
          exact .forget hdelete.1 hidle hselected hs
    · rw [if_neg hdelete]
      exact .ignore _

/-- An editor answers every event in one of the ways of `Step`. -/
theorem step_handle (e : Editor α) (event : Event α) :
    Step e event (e.handle event).2 (e.handle event).1 := by
  cases event with
  | setTool tool => exact .setTool tool
  | press p button => exact step_press e p button
  | move p => exact step_move e p
  | release p button fresh => exact step_release e p button fresh
  | key key => exact step_key e key

/-! ## Runs -/

/-- What every step keeps holds after a run. -/
lemma run_induction {P : Editor α → Prop} {events : List (Event α)}
    (step : ∀ e, P e → ∀ event ∈ events, P (e.handle event).1) {e : Editor α} (start : P e) :
    P (e.run events).1 := by
  induction events generalizing e with
  | nil => exact start
  | cons event rest ih =>
    exact ih (fun e he event hevent => step e he event (by simp [hevent]))
      (step e start event (by simp))

lemma reachable_run {e : Editor α} (h : e.Reachable) (events : List (Event α)) :
    Reachable (e.run events).1 :=
  run_induction (fun _ he event _ => .handle event he) h

end Editor

end Atelier

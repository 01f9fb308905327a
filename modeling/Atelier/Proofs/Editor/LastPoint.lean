/-
The way of the pointer does not matter.

A gesture that drags out, resizes or turns a shape measures from the press, and not from the
place where the pointer was before.  So following the pointer to a point forgets every point
before it (`follow_follow`), and after a run of moves the editor is where a single move to the
last point would have brought it (`Holding.run_eq`).  Dragging is different: it adds up
the ways from point to point.
-/
import Mathlib.Tactic.Common
import Atelier.Proofs.Editor.Cancel

namespace Atelier

variable {α : Type}

/-! ## What a run of events comes to -/

namespace Event

/-- Where the pointer moves. -/
def moved? : Event α → Option (Point α)
  | .move p => some p
  | _ => none

/-- The tool that is taken up. -/
def tool? : Event α → Option Tool
  | .setTool tool => some tool
  | _ => none

end Event

/-- The last point of the pointer's way, if it moves at all. -/
def lastMove? (events : List (Event α)) : Option (Point α) :=
  events.reverse.findSome? Event.moved?

/-- The tool after some events. -/
def lastTool (tool : Tool) (events : List (Event α)) : Tool :=
  (events.reverse.findSome? Event.tool?).getD tool

lemma lastMove?_cons (event : Event α) (events : List (Event α)) :
    lastMove? (event :: events) = (lastMove? events).or event.moved? := by
  simp [lastMove?, List.findSome?_append]

lemma lastTool_cons (tool : Tool) (event : Event α) (events : List (Event α)) :
    lastTool tool (event :: events) = lastTool (event.tool?.getD tool) events := by
  simp only [lastTool, List.reverse_cons, List.findSome?_append, List.findSome?_singleton]
  cases events.reverse.findSome? Event.tool? <;> rfl

/-! ## Gestures that measure from the press -/

namespace Gesture

/-- Whether the gesture measures from the press.  A drag goes on from where the pointer was. -/
def fromPress : Gesture α → Bool
  | dragging .. => false
  | _ => true

@[simp] lemma fromPress_follow (g : Gesture α) (p : Point α) :
    (g.follow p).fromPress = g.fromPress := by
  cases g <;> rfl

@[simp] lemma follow_follow (g : Gesture α) (p q : Point α) :
    (g.follow p).follow q = g.follow q := by
  cases g <;> rfl

variable [Scalar α]

/-- Of two changes of the shape only the second counts. -/
lemma apply_apply {g : Gesture α} (h : g.fromPress = true) (p q : Point α) (s : Shape α) :
    (g.follow p).apply q (g.apply p s) = g.apply q s := by
  cases g with
  | dragging => cases h
  | resizing id anchor frame => simp [apply, follow]
  | _ => rfl

end Gesture

namespace Editor

variable [Scalar α] {e : Editor α}

/-- Of two points the gesture remembers the second only. -/
lemma follow_follow (h : e.gesture.fromPress = true) (p q : Point α) :
    ((e.follow p).1.follow q).1 = (e.follow q).1 := by
  rcases follow_cases e p with ⟨-, hp⟩ | ⟨kind, anchor, current, hg, hp⟩ | ⟨id, s, hg, hs, hp⟩ |
    ⟨id, hg, hs, hp⟩
  · rw [hp]
  · rw [hp]
    simp [follow, hg, Gesture.follow]
  · have hs' : (e.sheet.modify id (e.gesture.apply p)).get? id = some (e.gesture.apply p s) := by
      rw [Sheet.get?_modify (e.gesture.keepsId_apply p), hs, Option.map_some]
    have hg' : (e.gesture.follow p).target? = some id := by rw [Gesture.target?_follow, hg]
    have happly : (e.gesture.follow p).apply q ∘ e.gesture.apply p = e.gesture.apply q := by
      funext t
      exact Gesture.apply_apply h p q t
    rw [hp, follow_of_target hg' hs', follow_of_target hg hs]
    simp only [Sheet.modify_modify (e.gesture.keepsId_apply p), happly, Gesture.follow_follow]
  · -- The shape of the gesture is gone, which ends it at the first move.
    rcases follow_cases e q with ⟨hidle, -⟩ | ⟨_, _, _, hdrawing, -⟩ | ⟨_, _, hg', hs', -⟩ |
      ⟨_, -, -, hq⟩
    · simp [hidle] at hg
    · simp [hdrawing] at hg
    · obtain rfl := Option.some.inj (hg.symm.trans hg')
      simp [hs] at hs'
    · rw [hp, hq]
      rfl

lemma follow_withTool (e : Editor α) (tool : Tool) (p : Point α) :
    (({ e with tool } : Editor α).follow p).1 = { (e.follow p).1 with tool } := by
  obtain ⟨sheet, tool', selected, gesture, width, height⟩ := e
  cases gesture with
  | idle | drawing => rfl
  | dragging id | resizing id | rotating id =>
    simp only [follow]
    cases sheet.get? id <;> rfl

lemma tool_follow (e : Editor α) (p : Point α) : (e.follow p).1.tool = e.tool := by
  rcases follow_cases e p with ⟨-, h⟩ | ⟨_, _, _, -, h⟩ | ⟨_, _, -, -, h⟩ | ⟨_, -, -, h⟩ <;> rw [h]

lemma fromPress_follow (h : e.gesture.fromPress = true) (p : Point α) :
    (e.follow p).1.gesture.fromPress = true := by
  rcases follow_cases e p with ⟨-, hp⟩ | ⟨_, _, _, -, hp⟩ | ⟨_, _, -, -, hp⟩ | ⟨_, -, -, hp⟩ <;>
    rw [hp]
  · exact h
  · rfl
  · simpa using h
  · rfl

/-! ## Runs -/

/-- The editor once its gesture has followed the pointer, if that has moved. -/
def followed (e : Editor α) (moved? : Option (Point α)) : Editor α :=
  moved?.elim e fun p => (e.follow p).1

lemma followed_followed (h : e.gesture.fromPress = true) (first second : Option (Point α)) :
    (e.followed first).followed second = e.followed (second.or first) := by
  cases second with
  | none => rfl
  | some q =>
    cases first with
    | none => rfl
    | some p => exact follow_follow h p q

lemma followed_withTool (e : Editor α) (tool : Tool) (moved? : Option (Point α)) :
    ({ e with tool } : Editor α).followed moved? = { e.followed moved? with tool } := by
  cases moved? with
  | none => rfl
  | some p => exact follow_withTool e tool p

/-- An event that does not end a gesture moves the pointer, changes the tool, or does nothing. -/
lemma Holding.handle_eq {event : Event α} (h : e.Holding) (hevent : event.endsGesture = false) :
    (e.handle event).1 = { e.followed event.moved? with tool := event.tool?.getD e.tool } := by
  have hbusy : e.gesture.isIdle = false := by
    rw [Bool.eq_false_iff, Ne, Gesture.isIdle_iff]
    exact h.busy
  cases event with
  | setTool tool => rfl
  | press p button => simp [handle, press, hbusy, followed, Event.moved?, Event.tool?]
  | move p => simp [handle, move, followed, Event.moved?, Event.tool?, ← tool_follow e p]
  | release p button fresh =>
    have hbutton : button ≠ .primary := by simpa [Event.endsGesture] using hevent
    simp [handle, release, hbutton, followed, Event.moved?, Event.tool?]
  | key key =>
    have hescape : key.isEscape = false := hevent
    simp [handle, pressKey, hescape, hbusy, followed, Event.moved?, Event.tool?]

/-- After a run that does not end the gesture the pointer might as well have moved to its last
point only. -/
lemma Holding.run_eq {events : List (Event α)} (h : e.Holding)
    (hpress : e.gesture.fromPress = true)
    (hevents : ∀ event ∈ events, event.endsGesture = false) :
    (e.run events).1 =
      { e.followed (lastMove? events) with tool := lastTool e.tool events } := by
  induction events generalizing e with
  | nil => rfl
  | cons event rest ih =>
    have hevent : event.endsGesture = false := hevents event (by simp)
    obtain ⟨hnext, -⟩ := h.step hevent
    have hpress' : (e.handle event).1.gesture.fromPress = true := by
      rw [h.handle_eq hevent]
      cases hmoved : event.moved? with
      | none => exact hpress
      | some p => exact fromPress_follow hpress p
    have hrest := ih hnext hpress' fun later hlater => hevents later (by simp [hlater])
    show ((e.handle event).1.run rest).1 = _
    rw [hrest, h.handle_eq hevent, followed_withTool, followed_followed hpress, lastMove?_cons,
      lastTool_cons]

/-- A gesture on a shape that is there goes on with it. -/
lemma followed_of_target {id : ShapeId} {s : Shape α} (hg : e.gesture.target? = some id)
    (hs : e.sheet.get? id = some s) (moved? : Option (Point α)) :
    (e.followed moved?).gesture.target? = some id ∧
      ∃ t, (e.followed moved?).sheet.get? id = some t := by
  cases moved? with
  | none => exact ⟨hg, s, hs⟩
  | some p =>
    simp only [followed, Option.elim_some, follow_of_target hg hs, Gesture.target?_follow]
    refine ⟨hg, e.gesture.apply p s, ?_⟩
    rw [Sheet.get?_modify (e.gesture.keepsId_apply p), hs, Option.map_some]

omit [Scalar α] in
lemma holding_of_target {id : ShapeId} {s : Shape α} (hg : e.gesture.target? = some id)
    (hs : e.sheet.get? id = some s) : e.Holding := by
  refine ⟨fun hidle => ?_, fun other hother => ?_⟩
  · simp [hidle] at hg
  · obtain rfl := Option.some.inj (hg.symm.trans hother)
    simp [hs]

/-- Where the pointer is at the release, there a gesture on a shape ends. -/
lemma release_eq_follow {id : ShapeId} {s : Shape α} {p : Point α}
    (hg : e.gesture.target? = some id) (hs : e.sheet.get? id = some s) (fresh : ShapeId) :
    (e.release p .primary fresh).1 = { (e.follow p).1 with gesture := .idle } := by
  rw [release_of_target hg hs, follow_of_target hg hs]

/-- After a run as well a release leaves what one move to its point would have. -/
lemma release_run {events : List (Event α)} {id : ShapeId} {s : Shape α} {p : Point α}
    {fresh : ShapeId} (hg : e.gesture.target? = some id) (hs : e.sheet.get? id = some s)
    (hpress : e.gesture.fromPress = true)
    (hevents : ∀ event ∈ events, event.endsGesture = false) :
    ((e.run events).1.release p .primary fresh).1 =
      { (e.follow p).1 with tool := lastTool e.tool events, gesture := .idle } := by
  have hrun := (holding_of_target hg hs).run_eq hpress hevents
  obtain ⟨hg', t, hs'⟩ := followed_of_target hg hs (lastMove? events)
  have hlast : ((e.followed (lastMove? events)).follow p).1 = (e.follow p).1 :=
    followed_followed hpress (lastMove? events) (some p)
  have hrelease := release_eq_follow (e := { e.followed (lastMove? events) with
    tool := lastTool e.tool events }) (p := p) (s := t) hg' hs'
  rw [hrun, hrelease fresh, follow_withTool, hlast]

/-! ## What a press starts -/

/-- With the selecting tool a press takes hold of what is under the pointer. -/
lemma press_of_hit {q : Point α} {hit : Hit} (hidle : e.gesture = .idle)
    (htool : e.tool = .select) (hhit : e.sheet.hit? e.selected q = some hit) :
    e.press q .primary = (e.grab hit q, [.render]) := by
  simp [press, hidle, Gesture.isIdle, htool, Tool.kind?, hhit]

/-- With the selecting tool a press on nothing clears the selection. -/
lemma press_of_nothing {q : Point α} (hidle : e.gesture = .idle) (htool : e.tool = .select)
    (hnothing : e.sheet.hit? e.selected q = none) :
    e.press q .primary = ({ e with selected := none }, [.render]) := by
  simp [press, hidle, Gesture.isIdle, htool, Tool.kind?, hnothing]

/-- A press that starts a gesture on a shape takes hold of the shape and leaves the sheet. -/
lemma exists_grip_of_press {q : Point α} {id : ShapeId} (hidle : e.gesture = .idle)
    (htarget : (e.press q .primary).1.gesture.target? = some id) :
    ∃ s grip, s.id = id ∧ e.sheet.get? id = some s ∧
      (e.press q .primary).1 = { e with selected := some id, gesture := .begin s grip q } := by
  have hstep := step_press e q .primary
  generalize (e.press q .primary).2 = actions at hstep
  generalize (e.press q .primary).1 = pressed at hstep htarget ⊢
  cases hstep with
  | ignore | deselect => simp [hidle] at htarget
  | draw => simp at htarget
  | @grab _ s grip _ _ _ hfound =>
    obtain rfl : s.id = id := by simpa using htarget
    exact ⟨s, grip, rfl, hfound, rfl⟩
  | lose htarget' => simp [hidle] at htarget'

/-- A press that begins to resize a shape has taken hold of an anchor. -/
lemma resize_of_press {q : Point α} {id : ShapeId} {anchor : Anchor} {frame : Box α}
    (hidle : e.gesture = .idle)
    (hgesture : (e.press q .primary).1.gesture = .resizing id anchor frame) :
    ∃ s, s.id = id ∧ s.frame = frame ∧ e.sheet.get? s.id = some s ∧
      (e.press q .primary).1 =
        { e with selected := some s.id, gesture := .begin s (.resize anchor) q } := by
  obtain ⟨s, grip, rfl, hfound, hpressed⟩ := exists_grip_of_press hidle (by rw [hgesture]; rfl)
  rw [hpressed] at hgesture ⊢
  cases grip with
  | body | rotate => simp [Gesture.begin] at hgesture
  | resize held =>
    obtain ⟨rfl, rfl⟩ : held = anchor ∧ s.frame = frame := by
      simpa [Gesture.begin] using hgesture
    exact ⟨s, rfl, rfl, hfound, rfl⟩

/-- A press that begins to turn a shape has taken hold of the handle for it. -/
lemma rotate_of_press {q center : Point α} {id : ShapeId} {start rotation : α}
    (hidle : e.gesture = .idle)
    (hgesture : (e.press q .primary).1.gesture = .rotating id center start rotation) :
    ∃ s, s.id = id ∧ s.center = center ∧ center.angleFrom q = start ∧ s.rotation = rotation ∧
      e.sheet.get? s.id = some s ∧
      (e.press q .primary).1 = { e with selected := some s.id, gesture := .begin s .rotate q } := by
  obtain ⟨s, grip, rfl, hfound, hpressed⟩ := exists_grip_of_press hidle (by rw [hgesture]; rfl)
  rw [hpressed] at hgesture ⊢
  cases grip with
  | body | resize => simp [Gesture.begin] at hgesture
  | rotate =>
    obtain ⟨rfl, rfl, rfl⟩ : s.center = center ∧ s.center.angleFrom q = start ∧
        s.rotation = rotation := by
      simpa [Gesture.begin] using hgesture
    exact ⟨s, rfl, rfl, rfl, rfl, hfound, rfl⟩

/-- A press that begins to drag out a shape draws with the tool that is in hand. -/
lemma kind_of_press {q anchor current : Point α} {kind : ShapeKind} (hidle : e.gesture = .idle)
    (hgesture : (e.press q .primary).1.gesture = .drawing kind anchor current) :
    e.tool.kind? = some kind ∧
      (e.press q .primary).1 = { e with gesture := .drawing kind q q } := by
  have hstep := step_press e q .primary
  generalize (e.press q .primary).2 = actions at hstep
  generalize (e.press q .primary).1 = pressed at hstep hgesture ⊢
  cases hstep with
  | ignore | deselect => simp [hidle] at hgesture
  | @draw _ kind' _ htool =>
    obtain ⟨rfl, rfl, rfl⟩ : kind' = kind ∧ q = anchor ∧ q = current := by simpa using hgesture
    exact ⟨htool, rfl⟩
  | @grab _ s grip => cases grip <;> simp [Gesture.begin] at hgesture
  | lose htarget => simp [hidle] at htarget

/-! ## What the last point decides -/

/-- After the press at `q` and the events only the shape `s` has changed, and it is what `shape`
says for the last point of the pointer.  Nothing but the tool is otherwise different from the
moment of the press.  A release decides by its own point. -/
def Carries (e : Editor α) (q : Point α) (events : List (Event α)) (s : Shape α)
    (shape : Point α → Shape α) : Prop :=
  let pressed := (e.press q .primary).1
  let after := (pressed.run events).1
  ∃ below above, e.sheet.shapes = below ++ s :: above ∧ (∀ t ∈ below, t.id ≠ s.id) ∧
    (∀ p, lastMove? events = some p →
      after = { pressed with
        tool := lastTool e.tool events
        sheet := ⟨below ++ shape p :: above⟩ }) ∧
    ∀ p fresh, (after.release p .primary fresh).1 =
      { pressed with
        tool := lastTool e.tool events
        sheet := ⟨below ++ shape p :: above⟩
        gesture := .idle }

/-- Resizing and turning carry the shape by the last point alone. -/
lemma carries_of_begin {q : Point α} {events : List (Event α)} {s : Shape α} {grip : Grip}
    (hfound : e.sheet.get? s.id = some s) (hgrip : grip ≠ .body)
    (hpressed : (e.press q .primary).1 =
      { e with selected := some s.id, gesture := .begin s grip q })
    (hevents : ∀ event ∈ events, event.endsGesture = false) :
    e.Carries q events s fun p => (Gesture.begin s grip q).apply p s := by
  obtain ⟨below, above, hshapes, hbelow, hmodify⟩ := Sheet.split_modify hfound
  refine ⟨below, above, hshapes, hbelow, ?_⟩
  generalize (e.press q .primary).1 = pressed at hpressed ⊢
  have hgesture : pressed.gesture = .begin s grip q := by rw [hpressed]
  have hsheet : pressed.sheet = e.sheet := by rw [hpressed]
  have htool : pressed.tool = e.tool := by rw [hpressed]
  have htarget : pressed.gesture.target? = some s.id := by rw [hgesture, Gesture.target?_begin]
  have hpresent : pressed.sheet.get? s.id = some s := by rw [hsheet, hfound]
  obtain ⟨hpress, hstill⟩ : pressed.gesture.fromPress = true ∧
      ∀ p, pressed.gesture.follow p = pressed.gesture := by
    rw [hgesture]
    cases grip with
    | body => exact absurd rfl hgrip
    | resize | rotate => exact ⟨rfl, fun _ => rfl⟩
  -- One move to `p` puts the changed shape in the place of `s`.
  have hfollow : ∀ p, (pressed.follow p).1 =
      { pressed with sheet := ⟨below ++ (Gesture.begin s grip q).apply p s :: above⟩ } := by
    intro p
    have hmodified : pressed.sheet.modify s.id (pressed.gesture.apply p) =
        ⟨below ++ (Gesture.begin s grip q).apply p s :: above⟩ := by
      rw [hgesture, hsheet]
      exact Sheet.ext_shapes (hmodify _)
    rw [follow_of_target htarget hpresent, hmodified, hstill]
  refine ⟨fun p hp => ?_, fun p fresh => ?_⟩
  · rw [(holding_of_target htarget hpresent).run_eq hpress hevents, hp, htool]
    simp only [followed, Option.elim_some, hfollow]
  · rw [release_run htarget hpresent hpress hevents, hfollow, htool]

/-- A shape that is dragged out reaches from the press to the last point. -/
lemma run_of_drawing {q : Point α} {kind : ShapeKind} {events : List (Event α)}
    (hevents : ∀ event ∈ events, event.endsGesture = false) :
    (({ e with gesture := .drawing kind q q } : Editor α).run events).1 =
      { e with
        tool := lastTool e.tool events
        gesture := .drawing kind q ((lastMove? events).getD q) } := by
  have hholding : ({ e with gesture := .drawing kind q q } : Editor α).Holding :=
    ⟨by simp, by simp⟩
  rw [hholding.run_eq rfl hevents]
  cases lastMove? events <;> rfl

/-- The pointer's way does not matter for resizing, turning and dragging out a shape.  After a
press at `q`, whatever happens short of the end of the gesture, only the last point counts:
the shape that is resized is resized once from what it was at the press, the shape that is
turned is turned once by the angle between `q` and the point, and the shape that is dragged out
reaches from `q` to the point, where a release adds it on top of the sheet of the press. -/
theorem last_point_decides {q : Point α} {events : List (Event α)} (hidle : e.gesture = .idle)
    (hevents : ∀ event ∈ events, event.endsGesture = false) :
    let pressed := (e.press q .primary).1
    let after := (pressed.run events).1
    (∀ id anchor frame, pressed.gesture = .resizing id anchor frame →
      ∃ s, s.id = id ∧ s.frame = frame ∧
        e.Carries q events s fun p => s.resize anchor p) ∧
    (∀ id center start rotation, pressed.gesture = .rotating id center start rotation →
      ∃ s, s.id = id ∧ s.center = center ∧ center.angleFrom q = start ∧ s.rotation = rotation ∧
        e.Carries q events s fun p =>
          { s with rotation := wrapAngle (rotation + center.angleFrom p - start) }) ∧
    ∀ kind anchor current, pressed.gesture = .drawing kind anchor current →
      e.tool.kind? = some kind ∧
      after = { e with
        tool := lastTool e.tool events
        gesture := .drawing kind q ((lastMove? events).getD q) } ∧
      ∀ p fresh,
        let drawn := (Shape.ofDrag fresh kind q p).normalize
        drawn.id = fresh ∧
        after.release p .primary fresh =
          ({ e with
              tool := lastTool e.tool events
              sheet := ⟨e.sheet.shapes ++ [drawn]⟩
              selected := none
              gesture := .idle }, [.created drawn, .render]) := by
  intro pressed after
  refine ⟨fun id anchor frame hg => ?_, fun id center start rotation hg => ?_,
    fun kind anchor current hg => ?_⟩
  · obtain ⟨s, hid, hframe, hfound, hpressed⟩ := resize_of_press hidle hg
    exact ⟨s, hid, hframe, carries_of_begin hfound (by simp) hpressed hevents⟩
  · obtain ⟨s, hid, rfl, rfl, rfl, hfound, hpressed⟩ := rotate_of_press hidle hg
    exact ⟨s, hid, rfl, rfl, rfl, carries_of_begin hfound (by simp) hpressed hevents⟩
  · obtain ⟨htool, hpressed⟩ := kind_of_press hidle hg
    have hafter : after = { e with
        tool := lastTool e.tool events
        gesture := .drawing kind q ((lastMove? events).getD q) } := by
      show (pressed.run events).1 = _
      rw [show pressed = _ from hpressed]
      exact run_of_drawing hevents
    refine ⟨htool, hafter, fun p fresh => ⟨rfl, ?_⟩⟩
    rw [hafter]
    rfl

/-- A rectangle of 80 by 60 pixels. -/
def framed : Shape Float :=
  ⟨.ofNat 1, .rectangle, 100, 100, 80, 60, 0, .descending, .default⟩

/-- The rectangle is selected and stands over a line. -/
def picked (tool : Tool) : Editor Float :=
  ⟨⟨[⟨.ofNat 2, .line, 0, 0, 20, 20, 0, .ascending, .default⟩, framed]⟩, tool, some (.ofNat 1),
    .idle, 500, 500⟩

/-- A way with detours: another tool, other buttons, a further press, and Delete. -/
def detour : List (Event Float) :=
  [.move ⟨300, -5⟩, .setTool (.draw .line), .press ⟨0, 0⟩ .secondary, .move ⟨101.5, 12⟩,
    .press ⟨120, 120⟩ .primary, .key ⟨"Delete"⟩, .move ⟨210, 170⟩, .release ⟨1, 1⟩ .middle (.ofNat 9)]

theorem last_point_decides_detour :
    (∀ event ∈ detour, event.endsGesture = false) ∧ lastMove? detour = some ⟨210, 170⟩ ∧
      ((picked .select).press ⟨180, 160⟩ .primary).1.gesture =
        .resizing (.ofNat 1) .southEast ⟨100, 100, 80, 60⟩ ∧
      (∃ s, s.id = .ofNat 1 ∧ s.frame = ⟨100, 100, 80, 60⟩ ∧
        (picked .select).Carries ⟨180, 160⟩ detour s fun p => s.resize .southEast p) ∧
      ((picked .select).press ⟨140, 80⟩ .primary).1.gesture =
        .rotating (.ofNat 1) framed.center (framed.center.angleFrom ⟨140, 80⟩) 0 ∧
      (∃ s, s.id = .ofNat 1 ∧ s.rotation = 0 ∧
        (picked .select).Carries ⟨140, 80⟩ detour s fun p =>
          { s with rotation :=
              wrapAngle (0 + framed.center.angleFrom p - framed.center.angleFrom ⟨140, 80⟩) }) ∧
      ((picked (.draw .ellipse)).press ⟨30, 40⟩ .primary).1.gesture =
        .drawing .ellipse ⟨30, 40⟩ ⟨30, 40⟩ ∧
      ((((picked (.draw .ellipse)).press ⟨30, 40⟩ .primary).1.run detour).1.release
          ⟨10, 90⟩ .primary (.ofNat 7)).2 =
        [.created (Shape.ofDrag (.ofNat 7) .ellipse ⟨30, 40⟩ ⟨10, 90⟩).normalize, .render] := by
  have hevents : ∀ event ∈ detour, event.endsGesture = false := by
    simp [detour, Event.endsGesture, Key.isEscape]
  have hresize : ((picked .select).press ⟨180, 160⟩ .primary).1.gesture =
      .resizing (.ofNat 1) .southEast ⟨100, 100, 80, 60⟩ := by decide +kernel
  have hturn : ((picked .select).press ⟨140, 80⟩ .primary).1.gesture =
      .rotating (.ofNat 1) framed.center (framed.center.angleFrom ⟨140, 80⟩) 0 := by
    -- The angles are not computed: it is enough to know what is under the point.
    have hhit : (picked .select).sheet.hit? (some (.ofNat 1)) ⟨140, 80⟩ =
        some ⟨.ofNat 1, .rotate⟩ := by decide +kernel
    have hfound : (picked .select).sheet.get? (.ofNat 1) = some framed := by decide +kernel
    rw [press_of_hit rfl rfl hhit, grab_eq hfound (.inr rfl)]
    rfl
  have hdraw : ((picked (.draw .ellipse)).press ⟨30, 40⟩ .primary).1.gesture =
      .drawing .ellipse ⟨30, 40⟩ ⟨30, 40⟩ := rfl
  obtain ⟨hresized, -, -⟩ :=
    last_point_decides (q := ⟨180, 160⟩) (show (picked .select).gesture = .idle from rfl) hevents
  obtain ⟨-, hturned, -⟩ :=
    last_point_decides (q := ⟨140, 80⟩) (show (picked .select).gesture = .idle from rfl) hevents
  obtain ⟨-, -, hdrawn⟩ := last_point_decides (q := ⟨30, 40⟩)
    (show (picked (.draw .ellipse)).gesture = .idle from rfl) hevents
  obtain ⟨s, hs, hframe, hcarried⟩ := hresized _ _ _ hresize
  obtain ⟨t, ht, -, -, hrotation, hcarried'⟩ := hturned _ _ _ _ hturn
  obtain ⟨-, -, hrelease⟩ := hdrawn _ _ _ hdraw
  exact ⟨hevents, rfl, hresize, ⟨s, hs, hframe, hcarried⟩, hturn, ⟨t, ht, hrotation, hcarried'⟩,
    hdraw, congrArg Prod.snd (hrelease ⟨10, 90⟩ (.ofNat 7)).2⟩

end Editor

end Atelier

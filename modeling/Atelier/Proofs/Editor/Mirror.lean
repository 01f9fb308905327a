/-
A mirror of the sheet, kept by the host from the actions alone.

The host starts with the shapes it loaded and carries out each action on its own list: it
appends a created shape, replaces an updated one, and drops a deleted one.  During a gesture
the sheet runs ahead of the mirror.  What the mirror follows is the baseline, step by step
(`Step.mirrors`), and without a gesture the baseline is the sheet.

A gesture that ends with `-0` where there was `0` is not reported, so that shapes agree up to
the sign of zero only.
-/
import Atelier.Proofs.Decimal.Equality
import Atelier.Proofs.Editor.Cancel

namespace Atelier

/-! ## The host's list -/

namespace Action

variable {α : Type}

/-- The host's list of shapes after an action. -/
def mirror (shapes : List (Shape α)) : Action α → List (Shape α)
  | created s => shapes ++ [s]
  | updated s => shapes.set (shapes.findIdx (·.id = s.id)) s
  | deleted id => shapes.eraseP (·.id = id)
  | setCursor _ => shapes
  | render => shapes

/-- The host's list of shapes after some actions. -/
def mirrorAll (shapes : List (Shape α)) (actions : List (Action α)) : List (Shape α) :=
  actions.foldl mirror shapes

@[simp] lemma mirrorAll_cons (shapes : List (Shape α)) (action : Action α)
    (rest : List (Action α)) :
    mirrorAll shapes (action :: rest) = mirrorAll (action.mirror shapes) rest := rfl

lemma mirrorAll_append (shapes : List (Shape α)) (actions later : List (Action α)) :
    mirrorAll shapes (actions ++ later) = mirrorAll (mirrorAll shapes actions) later :=
  List.foldl_append

end Action

/-! ## Agreement of shapes -/

/-- Two shapes with the same fields, up to the sign of zero. -/
structure Shape.Agrees (s t : Shape Float) : Prop where
  id : s.id = t.id
  kind : s.kind = t.kind
  x : SameNumber s.x t.x
  y : SameNumber s.y t.y
  width : SameNumber s.width t.width
  height : SameNumber s.height t.height
  rotation : SameNumber s.rotation t.rotation
  slope : s.slope = t.slope
  fill : s.paint.fill = t.paint.fill
  stroke : s.paint.stroke = t.paint.stroke
  lineWidth : SameNumber s.paint.lineWidth t.paint.lineWidth

namespace Shape.Agrees

@[refl] lemma refl (s : Shape Float) : s.Agrees s :=
  ⟨rfl, rfl, .refl _, .refl _, .refl _, .refl _, .refl _, rfl, rfl, rfl, .refl _⟩

lemma trans {s t u : Shape Float} (h : s.Agrees t) (h' : t.Agrees u) : s.Agrees u where
  id := h.id.trans h'.id
  kind := h.kind.trans h'.kind
  x := h.x.trans h'.x
  y := h.y.trans h'.y
  width := h.width.trans h'.width
  height := h.height.trans h'.height
  rotation := h.rotation.trans h'.rotation
  slope := h.slope.trans h'.slope
  fill := h.fill.trans h'.fill
  stroke := h.stroke.trans h'.stroke
  lineWidth := h.lineWidth.trans h'.lineWidth

end Shape.Agrees

/-- Lists of shapes that agree one by one. -/
abbrev ShapesAgree : List (Shape Float) → List (Shape Float) → Prop :=
  List.Forall₂ Shape.Agrees

namespace ShapesAgree

variable {shapes shapes' shapes'' : List (Shape Float)}

lemma refl (shapes : List (Shape Float)) : ShapesAgree shapes shapes :=
  List.forall₂_same.2 fun s _ => .refl s

lemma trans (h : ShapesAgree shapes shapes') (h' : ShapesAgree shapes' shapes'') :
    ShapesAgree shapes shapes'' := by
  induction h generalizing shapes'' with
  | nil => exact h'
  | cons hs _ ih =>
    obtain ⟨u, rest'', hu, hrest, rfl⟩ := List.forall₂_cons_left_iff.1 h'
    exact .cons (hs.trans hu) (ih hrest)

/-- An action keeps agreeing lists in agreement. -/
lemma mirror (h : ShapesAgree shapes shapes') (action : Action Float) :
    ShapesAgree (action.mirror shapes) (action.mirror shapes') := by
  cases action with
  | created s => exact List.rel_append h (refl [s])
  | setCursor | render => exact h
  | updated u =>
    -- Agreeing shapes have one identifier, so that the same place is set in both lists.
    simp only [Action.mirror]
    induction h with
    | nil => exact .nil
    | @cons s t rest rest' hst hrest ih =>
      by_cases hs : s.id = u.id
      · have ht : t.id = u.id := hst.id.symm.trans hs
        simpa [List.findIdx_cons, hs, ht] using List.Forall₂.cons (.refl u) hrest
      · have ht : ¬ t.id = u.id := fun ht => hs (hst.id.trans ht)
        simpa [List.findIdx_cons, hs, ht] using List.Forall₂.cons hst ih
  | deleted id =>
    simp only [Action.mirror]
    induction h with
    | nil => exact .nil
    | @cons s t rest rest' hst hrest ih =>
      by_cases hs : s.id = id
      · have ht : t.id = id := hst.id.symm.trans hs
        simpa [List.eraseP_cons, hs, ht] using hrest
      · have ht : ¬ t.id = id := fun ht => hs (hst.id.trans ht)
        simpa [List.eraseP_cons, hs, ht] using List.Forall₂.cons hst ih

lemma mirrorAll (h : ShapesAgree shapes shapes') (actions : List (Action Float)) :
    ShapesAgree (Action.mirrorAll shapes actions) (Action.mirrorAll shapes' actions) := by
  induction actions generalizing shapes shapes' with
  | nil => exact h
  | cons action rest ih => exact ih (h.mirror action)

end ShapesAgree

/-! ## The mirror follows the baseline -/

/-- A gesture that reports no change has changed the sign of a zero at most. -/
lemma Gesture.agrees_restore {g : Gesture Float} {s : Shape Float} (h : g.hasChanged s = false) :
    (g.restore s).Agrees s := by
  have same {x y : Float} (hxy : (x == y) = true) : SameNumber y x := (SameNumber.of_beq hxy).symm
  cases g with
  | idle | drawing => exact .refl s
  | dragging id last x y =>
    obtain ⟨hx, hy⟩ : (s.x == x) = true ∧ (s.y == y) = true := by
      simpa [hasChanged, bne] using h
    exact { Shape.Agrees.refl s with x := same hx, y := same hy }
  | resizing id anchor frame =>
    obtain ⟨⟨⟨hx, hy⟩, hwidth⟩, hheight⟩ : (((s.x == frame.x) = true ∧ (s.y == frame.y) = true) ∧
        (s.width == frame.width) = true) ∧ (s.height == frame.height) = true := by
      simpa [hasChanged, bne] using h
    exact { Shape.Agrees.refl s with
      x := same hx, y := same hy, width := same hwidth, height := same hheight }
  | rotating id center start rotation =>
    have hrotation : (s.rotation == rotation) = true := by simpa [hasChanged, bne] using h
    exact { Shape.Agrees.refl s with rotation := same hrotation }

namespace Editor

variable {e e' : Editor Float} {event : Event Float} {actions : List (Action Float)}

/-- What the host makes of a report is the sheet with the changed shape in its place. -/
lemma mirror_updated {below above : List (Shape Float)} {s t : Shape Float} (hid : s.id = t.id)
    (hbelow : ∀ u ∈ below, u.id ≠ t.id) :
    (Action.updated t).mirror (below ++ s :: above) = below ++ t :: above := by
  have hplace : (below ++ s :: above).findIdx (·.id = t.id) = below.length := by
    have hnone : below.findIdx (·.id = t.id) = below.length :=
      List.findIdx_eq_length_of_false fun u hu => by simpa using hbelow u hu
    rw [List.findIdx_append, hnone, if_neg (Nat.lt_irrefl _), List.findIdx_cons]
    simp [hid]
  rw [Action.mirror, hplace, List.set_append_right _ _ (Nat.le_refl _), Nat.sub_self,
    List.set_cons_zero]

lemma agree_of_baseline_eq (h : e'.baseline = e.baseline) :
    ShapesAgree e.baseline.shapes e'.baseline.shapes := by
  rw [h]
  exact .refl _

/-- The host carries out on its mirror what the step does to the baseline. -/
lemma Step.mirrors (h : Step e event actions e') :
    ShapesAgree (Action.mirrorAll e.baseline.shapes actions) e'.baseline.shapes := by
  cases h with
  | ignore => exact .refl _
  | setTool tool => exact agree_of_baseline_eq (by rw [baseline_eq, baseline_eq])
  | draw hidle =>
    exact agree_of_baseline_eq ((baseline_of_drawing rfl).trans (baseline_of_idle hidle).symm)
  | @grab p s grip hidle _ _ hfound =>
    have hafter : ({ e with selected := some s.id, gesture := .begin s grip p } :
        Editor Float).baseline = e.sheet := baseline_begin rfl hfound
    exact agree_of_baseline_eq (hafter.trans (baseline_of_idle hidle).symm)
  | deselect | forget => exact agree_of_baseline_eq (by rw [baseline_eq, baseline_eq])
  | stretch hg =>
    exact agree_of_baseline_eq ((baseline_of_drawing rfl).trans (baseline_of_drawing hg).symm)
  | change hg => exact agree_of_baseline_eq (baseline_change hg rfl rfl)
  | lose hg hgone =>
    have hbefore : e.baseline = e.sheet :=
      (baseline_of_target hg).trans (Sheet.modify_of_get?_eq_none hgone)
    exact agree_of_baseline_eq ((baseline_of_idle rfl).trans hbefore.symm)
  | cancel => exact agree_of_baseline_eq (baseline_of_idle (gesture_cancel e))
  | add hg =>
    have hbefore : e.baseline = e.sheet := baseline_of_drawing hg
    rw [hbefore]
    exact .refl _
  | @delete _ id _ _ hidle =>
    have hbefore : e.baseline = e.sheet := baseline_of_idle hidle
    have hafter : ({ e with sheet := e.sheet.remove id, selected := none } :
        Editor Float).baseline = e.sheet.remove id := baseline_of_idle hidle
    rw [hbefore, hafter]
    exact .refl _
  | @report p fresh id s hg hfound =>
    -- The baseline has the shape of the press in the place where the sheet has the new one.
    obtain ⟨below, above, -, hbelow, hmodify⟩ := Sheet.split_modify hfound
    have hid : (e.gesture.apply p s).id = id :=
      (e.gesture.keepsId_apply p s).trans (Sheet.id_of_get? hfound)
    have hrestored : (e.gesture.restore s).id = (e.gesture.apply p s).id :=
      (e.gesture.keepsId_restore s).trans (e.gesture.keepsId_apply p s).symm
    rw [baseline_of_target hg, baseline_of_idle rfl, hmodify, hmodify, Action.mirrorAll_cons,
      mirror_updated hrestored (by simpa [hid] using hbelow)]
    exact .refl _
  | @settle p fresh id s hg hfound hunchanged =>
    -- Nothing is reported, and the mirror keeps the shape of the press.
    obtain ⟨below, above, -, -, hmodify⟩ := Sheet.split_modify hfound
    have hs : (e.gesture.restore s).Agrees (e.gesture.apply p s) := by
      rw [← e.gesture.restore_apply p s]
      exact Gesture.agrees_restore hunchanged
    rw [baseline_of_target hg, baseline_of_idle rfl, hmodify, hmodify]
    exact List.rel_append (ShapesAgree.refl below) (.cons hs (ShapesAgree.refl above))

lemma run_mirrors (e : Editor Float) (events : List (Event Float)) :
    ShapesAgree (Action.mirrorAll e.baseline.shapes (e.run events).2)
      (e.run events).1.baseline.shapes := by
  induction events generalizing e with
  | nil => exact .refl _
  | cons event rest ih =>
    have hstep := (step_handle e event).mirrors
    simp only [run, Action.mirrorAll_append]
    exact (hstep.mirrorAll _).trans (ih (e.handle event).1)

/-- The actions say all that happens to the sheet.  A host that starts with the shapes it loads
and carries out every action has, whenever there is no gesture, the shapes of the sheet. -/
theorem mirror_agrees {e : Editor Float} {sheet : Sheet Float} {events : List (Event Float)}
    (hidle : ((e.load sheet).run events).1.gesture = .idle) :
    ShapesAgree (Action.mirrorAll sheet.shapes ((e.load sheet).run events).2)
      ((e.load sheet).run events).1.sheet.shapes := by
  have hrun := run_mirrors (e.load sheet) events
  have hstart : (e.load sheet).baseline = sheet := baseline_of_idle rfl
  rwa [hstart, baseline_of_idle hidle] at hrun

/-- Two shapes with one identifier, the lower one with a negative width. -/
def pair : Sheet Float :=
  ⟨[⟨.ofNat 1, .ellipse, 100, 100, -40, 30, 0, .descending, ⟨"red", "#000000", 1⟩⟩,
    ⟨.ofNat 1, .rectangle, 50, 90, 60, 60, 0, .descending, .default⟩]⟩

/-- A shape is dragged, another one dragged out, a drag cancelled, and a shape removed. -/
def pairEvents : List (Event Float) :=
  [.press ⟨70, 120⟩ .primary, .move ⟨75, 130⟩, .release ⟨80, 110⟩ .primary (.ofNat 8),
    .setTool (.draw .triangle), .press ⟨300, 300⟩ .primary, .move ⟨200, 350⟩,
    .release ⟨220, 260⟩ .primary (.ofNat 9), .setTool .select,
    .press ⟨70, 130⟩ .primary, .move ⟨0, 0⟩, .key ⟨"Escape"⟩,
    .press ⟨90, 140⟩ .primary, .release ⟨90, 140⟩ .primary (.ofNat 10), .key ⟨"Delete"⟩]

theorem mirror_agrees_pair :
    ((Editor.new.load pair).run pairEvents).1.gesture = .idle ∧
      ((Editor.new.load pair).run pairEvents).1.sheet ≠ pair ∧
      ShapesAgree (Action.mirrorAll pair.shapes ((Editor.new.load pair).run pairEvents).2)
        ((Editor.new.load pair).run pairEvents).1.sheet.shapes :=
  have hidle : ((Editor.new.load pair).run pairEvents).1.gesture = .idle := by decide +kernel
  ⟨hidle, by decide +kernel, mirror_agrees hidle⟩

end Editor

end Atelier

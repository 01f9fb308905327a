/-
Clicks: a press and a release of the primary button at one point.

With the selecting tool a click takes hold of what is under the pointer and lets it go at once.
That need not leave the shape as it is.  A shape is resized to the pointer and not by the way of
the pointer, so that a click on a handle can move edges; this is no matter of rounding
(`click_exact_iff`).  And an angle that is added and taken away again is rounded twice.  With doubles
the part of the shape that is hit decides whether a click is an edit (`click_outcome`).
-/
import Atelier.Proofs.Decimal.Sum
import Atelier.Proofs.Editor.LastPoint
import Atelier.Proofs.Editor.Mirror
import Atelier.Proofs.Shape.Edges

namespace Atelier

/-! ## A gesture that ends where it begins -/

/-- The shape is left as it is when a gesture on the given part of it begins and ends at a point. -/
def Shape.StaysAt (s : Shape Float) (p : Point Float) : Grip → Prop
  | .body => s.x.isNaN = false ∧ s.y.isNaN = false
  | .resize anchor =>
    let t := s.resize anchor p
    (t.x == s.x) = true ∧ (t.y == s.y) = true ∧ (t.width == s.width) = true ∧
      (t.height == s.height) = true
  | .rotate =>
    let angle := s.center.angleFrom p
    (wrapAngle (s.rotation + angle - angle) == s.rotation) = true

lemma add_zero_bne (x : Float) : (x + 0 != x) = x.isNaN := by
  cases hx : x.isNaN with
  | false =>
    rw [bne, add_zero_beq hx]
    rfl
  | true =>
    have hne : (x + 0 == x) = false := by
      rw [Bool.eq_false_iff]
      exact fun hbeq => (SameNumber.not_isNaN_of_beq hbeq).2 hx
    rw [bne, hne]
    rfl

namespace Gesture

/-- A gesture that ends where it begins reports nothing exactly if the shape stays. -/
lemma hasChanged_begin_iff {s : Shape Float} {grip : Grip} {p : Point Float}
    (hx : p.x.isFinite = true) (hy : p.y.isFinite = true) :
    (begin s grip p).hasChanged ((begin s grip p).apply p s) = false ↔ s.StaysAt p grip := by
  cases grip with
  | body =>
    have hx' : (s.x + (p.x - p.x) != s.x) = s.x.isNaN := by
      rw [sub_self_eq_zero hx, add_zero_bne]
    have hy' : (s.y + (p.y - p.y) != s.y) = s.y.isNaN := by
      rw [sub_self_eq_zero hy, add_zero_bne]
    show (s.x + (p.x - p.x) != s.x || s.y + (p.y - p.y) != s.y) = false ↔ _
    rw [hx', hy', Bool.or_eq_false_iff, Shape.StaysAt]
  | resize anchor =>
    -- The box of the press is the box of the shape.
    show ((s.resize anchor p).x != s.x || (s.resize anchor p).y != s.y ||
      (s.resize anchor p).width != s.width || (s.resize anchor p).height != s.height) = false ↔ _
    simp [bne, Shape.StaysAt, and_assoc]
  | rotate =>
    show (wrapAngle (s.rotation + s.center.angleFrom p - s.center.angleFrom p) != s.rotation) =
      false ↔ _
    simp [bne, Shape.StaysAt]

/-- Without rounding only resizing changes a shape in a gesture that ends where it begins. -/
lemma apply_begin_eq_self_iff {s : Shape ℝ} (h : s.InNormalForm) {grip : Grip} {p : Point ℝ} :
    (begin s grip p).apply p s = s ↔ ∀ anchor, grip = .resize anchor →
      s.frame.OnEdges anchor (p.rotate s.center (-s.rotation)) := by
  cases grip with
  | body => simp [begin, apply, Shape.translate]
  | resize anchor =>
    have hframe : s.withFrame s.frame = s := rfl
    simp only [begin, apply, hframe, Shape.resize_eq_self_iff h, Grip.resize.injEq, forall_eq']
  | rotate =>
    simp [begin, apply, Shape.setRotation, wrapAngle_of_mem_Ico h.rotation]

lemma hasChanged_begin_self (s : Shape ℝ) (grip : Grip) (p : Point ℝ) :
    (begin s grip p).hasChanged s = false := by
  cases grip <;> simp [begin, hasChanged, bne, Shape.frame]

end Gesture

namespace Editor

/-! ## The two steps of a click -/

/-- The events of a click. -/
def click {α : Type} (p : Point α) (fresh : ShapeId) : List (Event α) :=
  [.press p .primary, .release p .primary fresh]

section

variable {α : Type} [Scalar α] {e : Editor α} {p : Point α}

/-- A click on nothing clears the selection. -/
lemma run_click_of_nothing (hidle : e.gesture = .idle) (htool : e.tool = .select)
    (hnothing : e.sheet.hit? e.selected p = none) (fresh : ShapeId) :
    e.run (click p fresh) = ({ e with selected := none }, [.render]) := by
  have hpress := press_of_nothing hidle htool hnothing
  have hrelease : ({ e with selected := none } : Editor α).release p .primary fresh =
      ({ e with selected := none }, []) := by
    simp [release, follow, commit, hidle]
  simp [click, run, handle, hpress, hrelease]

/-- A click on a shape selects it, and does to it what the gesture of the press makes of the one
point. -/
lemma run_click_of_hit {id : ShapeId} {grip : Grip} {s : Shape α} {below above : List (Shape α)}
    (hidle : e.gesture = .idle) (htool : e.tool = .select)
    (hhit : e.sheet.hit? e.selected p = some ⟨id, grip⟩)
    (hplace : e.sheet.Place id below s above) (fresh : ShapeId) :
    let g := Gesture.begin s grip p
    let t := g.apply p s
    e.run (click p fresh) =
      ({ e with sheet := ⟨below ++ t :: above⟩, selected := some id },
        .render :: if g.hasChanged t then [.updated t, .render] else []) := by
  intro g t
  have hpress : e.press p .primary =
      ({ e with selected := some id, gesture := g }, [.render]) := by
    rw [press_of_hit hidle htool hhit, grab_eq hplace.get?_eq (Sheet.get?_of_hit? hhit).2]
  have htarget : g.target? = some id := by
    rw [Gesture.target?_begin, hplace.addressed]
  have hsheet : e.sheet.modify id (g.apply p) = ⟨below ++ t :: above⟩ :=
    Sheet.ext_shapes (hplace.modify _)
  have hrelease : ({ e with selected := some id, gesture := g } : Editor α).release p .primary
      fresh = _ := release_of_target htarget hplace.get?_eq
  simp [click, run, handle, hpress, hrelease, hidle, hsheet, t]

end

/-! ## Clicks in exact arithmetic -/

/-- Without rounding, a click on shapes in normal form changes nothing and reports nothing, unless
it is on a resize handle: then the pointer has to be on the edges that the handle moves. -/
theorem click_exact_iff {e : Editor ℝ} {p : Point ℝ} (hidle : e.gesture = .idle)
    (htool : e.tool = .select) (hnormal : ∀ s ∈ e.sheet.shapes, s.InNormalForm) (fresh : ShapeId) :
    let clicked := e.run (click p fresh)
    clicked.1.sheet = e.sheet ∧ clicked.2 = [.render] ↔
      ∀ id anchor s, e.sheet.hit? e.selected p = some ⟨id, .resize anchor⟩ →
        e.sheet.get? id = some s →
          s.frame.OnEdges anchor (p.rotate s.center (-s.rotation)) := by
  intro clicked
  cases hhit : e.sheet.hit? e.selected p with
  | none =>
    have hclicked : clicked = _ := run_click_of_nothing hidle htool hhit fresh
    simp [hclicked]
  | some hit =>
    obtain ⟨id, grip⟩ := hit
    obtain ⟨⟨s, hs⟩, -⟩ := Sheet.get?_of_hit? hhit
    obtain ⟨below, above, hplace⟩ := Sheet.exists_place hs
    have hclicked : clicked = _ := run_click_of_hit hidle htool hhit hplace fresh
    have hmem : s ∈ e.sheet.shapes := by simp [hplace.shapes]
    have hself : clicked.1.sheet = e.sheet ∧ clicked.2 = [.render] ↔
        (Gesture.begin s grip p).apply p s = s := by
      rw [hclicked]
      constructor
      · rintro ⟨hsheet, -⟩
        have hshapes := congrArg Sheet.shapes hsheet
        rw [hplace.shapes] at hshapes
        exact (List.cons.inj (List.append_cancel_left hshapes)).1
      · intro hsame
        simp only [hsame, Gesture.hasChanged_begin_self]
        exact ⟨(Sheet.ext_shapes hplace.shapes).symm, rfl⟩
    rw [hself, Gesture.apply_begin_eq_self_iff (hnormal s hmem)]
    constructor
    · intro hedges id' anchor s' hhit' hs'
      obtain ⟨rfl, rfl⟩ := Hit.mk.inj (Option.some.inj hhit')
      obtain rfl : s = s' := Option.some.inj (hs.symm.trans hs')
      exact hedges anchor rfl
    · rintro hedges anchor rfl
      exact hedges id anchor s rfl hs

/-! ## Clicks with doubles -/

variable {e : Editor Float} {p : Point Float}

/-- What a click with the selecting tool does.  One on nothing clears the selection and leaves all
shapes.  One on a shape selects it and leaves all others; the shape itself agrees with what it was,
and nothing is reported, exactly if it stays where the gesture of the press begins and ends. -/
theorem click_outcome (hidle : e.gesture = .idle) (htool : e.tool = .select)
    (hx : p.x.isFinite = true) (hy : p.y.isFinite = true) (fresh : ShapeId) :
    let clicked := e.run (click p fresh)
    (e.sheet.hit? e.selected p = none → clicked = ({ e with selected := none }, [.render])) ∧
    ∀ id grip, e.sheet.hit? e.selected p = some ⟨id, grip⟩ →
      ∃ s below above, e.sheet.Place id below s above ∧
        let t := (Gesture.begin s grip p).apply p s
        clicked.1 = { e with sheet := ⟨below ++ t :: above⟩, selected := some id } ∧
        (s.StaysAt p grip → s.Agrees t ∧ clicked.2 = [.render]) ∧
        (¬ s.StaysAt p grip → clicked.2 = [.render, .updated t, .render]) := by
  intro clicked
  refine ⟨fun hnothing => run_click_of_nothing hidle htool hnothing fresh, ?_⟩
  intro id grip hhit
  obtain ⟨⟨s, hs⟩, -⟩ := Sheet.get?_of_hit? hhit
  obtain ⟨below, above, hplace⟩ := Sheet.exists_place hs
  refine ⟨s, below, above, hplace, ?_⟩
  intro t
  have hclicked : clicked = _ := run_click_of_hit hidle htool hhit hplace fresh
  have hchanged : (Gesture.begin s grip p).hasChanged t = false ↔ s.StaysAt p grip :=
    Gesture.hasChanged_begin_iff hx hy
  rw [hclicked]
  refine ⟨rfl, fun hstays => ?_, fun hmoves => ?_⟩
  · have hunchanged := hchanged.2 hstays
    have hagrees := Gesture.agrees_restore hunchanged
    rw [Gesture.restore_apply, Gesture.restore_begin] at hagrees
    refine ⟨hagrees, ?_⟩
    show Action.render :: (if (Gesture.begin s grip p).hasChanged t then _ else _) = _
    rw [hunchanged, if_neg Bool.false_ne_true]
  · have hreported : (Gesture.begin s grip p).hasChanged t = true := by
      rw [← Bool.not_eq_false]
      exact fun hunchanged => hmoves (hchanged.1 hunchanged)
    show Action.render :: (if (Gesture.begin s grip p).hasChanged t then _ else _) = _
    rw [hreported, if_pos rfl]

/-- The rectangle has been selected by a click on its body. -/
def clickedOnce : Editor Float :=
  ((Editor.new.load ⟨[framed]⟩).run (click ⟨140, 130⟩ (.ofNat 2))).1

lemma reachable_clickedOnce : clickedOnce.Reachable :=
  reachable_run (.load _ (.ofSize _ _)) _

/-- A second click, beside the corner of the rectangle but on its handle. -/
theorem click_outcome_beside_corner :
    clickedOnce.gesture = .idle ∧ clickedOnce.tool = .select ∧
      clickedOnce.sheet.hit? clickedOnce.selected ⟨97, 98⟩ =
        some ⟨.ofNat 1, .resize .northWest⟩ ∧
      ¬ framed.StaysAt ⟨97, 98⟩ (.resize .northWest) ∧
      (clickedOnce.run (click ⟨97, 98⟩ (.ofNat 3))).2 =
        [.render, .updated (framed.resize .northWest ⟨97, 98⟩), .render] := by
  have hidle : clickedOnce.gesture = .idle := by decide +kernel
  have htool : clickedOnce.tool = .select := by decide +kernel
  have hhit : clickedOnce.sheet.hit? clickedOnce.selected ⟨97, 98⟩ =
      some ⟨.ofNat 1, .resize .northWest⟩ := by decide +kernel
  have hfound : clickedOnce.sheet.get? (.ofNat 1) = some framed := by decide +kernel
  have hmoves : ¬ framed.StaysAt ⟨97, 98⟩ (.resize .northWest) := by
    have hx : ((framed.resize .northWest ⟨97, 98⟩).x == framed.x) = false := by decide +kernel
    rintro ⟨hsame, -⟩
    rw [hx] at hsame
    cases hsame
  obtain ⟨-, hclick⟩ := click_outcome (p := ⟨97, 98⟩) hidle htool (by decide +kernel)
    (by decide +kernel) (.ofNat 3)
  obtain ⟨s, below, above, hplace, -, -, hreport⟩ := hclick _ _ hhit
  obtain rfl : framed = s := Option.some.inj (hfound.symm.trans hplace.get?_eq)
  exact ⟨hidle, htool, hhit, hmoves, hreport hmoves⟩

/-- A click can be an edit: one on a handle, but beside its middle, moves the edges to the
pointer. -/
theorem click_not_always_harmless :
    ¬ ∀ (e : Editor Float) (p : Point Float) (fresh : ShapeId), e.Reachable → e.gesture = .idle →
      e.tool = .select → p.x.isFinite = true → p.y.isFinite = true →
        let clicked := e.run [.press p .primary, .release p .primary fresh]
        ShapesAgree e.sheet.shapes clicked.1.sheet.shapes ∧ ∀ t, Action.updated t ∉ clicked.2 := by
  intro h
  obtain ⟨-, hsilent⟩ := h clickedOnce ⟨97, 98⟩ (.ofNat 3) reachable_clickedOnce
    (by decide +kernel) (by decide +kernel) (by decide +kernel) (by decide +kernel)
  have hreport : (clickedOnce.run (click ⟨97, 98⟩ (.ofNat 3))).2 =
      [.render, .updated (framed.resize .northWest ⟨97, 98⟩), .render] := by decide +kernel
  have hmem : Action.updated (framed.resize .northWest ⟨97, 98⟩) ∈
      (clickedOnce.run (click ⟨97, 98⟩ (.ofNat 3))).2 := by simp [hreport]
  exact hsilent _ hmem

end Editor

end Atelier

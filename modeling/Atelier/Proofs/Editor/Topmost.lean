/-
Presses on shapes that lie on each other.

What a press hits is found by its place: the topmost shape that the point lies on, which is the one
that is drawn last.  What a drag moves is found by its identifier: the lowest shape that has it.
The two are one shape exactly if no shape below has the identifier of the topmost one.  Otherwise
the pointer drags a shape that it need not even lie on (`carried_of_press`), and a snapshot may hold
such shapes (`not_always_topmost_carried`).
-/
import Atelier.Proofs.Drawing.Layers
import Atelier.Proofs.Editor.Drag
import Atelier.Proofs.Snapshot.Json
import Atelier.Snapshot.Xml

namespace Atelier

section

variable {α : Type} [Scalar α]

/-! ## The topmost shape -/

namespace Sheet

/-- The place of the topmost shape that a point lies on, between the shapes below and above. -/
structure Topmost (sheet : Sheet α) (p : Point α) (below : List (Shape α)) (s : Shape α)
    (above : List (Shape α)) : Prop where
  shapes : sheet.shapes = below ++ s :: above
  contains : s.contains p = true
  highest : ∀ t ∈ above, t.contains p = false

variable {sheet : Sheet α} {p : Point α}

lemma topmostAt?_eq_none_iff :
    sheet.topmostAt? p = none ↔ ∀ s ∈ sheet.shapes, s.contains p = false := by
  simp [topmostAt?]

lemma exists_topmost {s : Shape α} (h : sheet.topmostAt? p = some s) :
    ∃ below above, sheet.Topmost p below s above := by
  obtain ⟨hcontains, above, below, hshapes, habove⟩ := List.find?_eq_some_iff_append.1 h
  refine ⟨below.reverse, above.reverse, ?_, hcontains, fun t ht => ?_⟩
  · rw [← List.reverse_reverse sheet.shapes, hshapes]
    simp
  · simpa using habove t (List.mem_reverse.1 ht)

/-- Without a selection there are no handles to hit. -/
lemma hit?_of_unselected :
    sheet.hit? none p = (sheet.topmostAt? p).map fun s => ⟨s.id, .body⟩ := by
  simp [hit?]

/-- The topmost shape is the one that its identifier addresses if no shape below has the same. -/
lemma Topmost.place_eq_iff {below above lower upper : List (Shape α)} {s t : Shape α}
    (htopmost : sheet.Topmost p below s above) (hplace : sheet.Place s.id lower t upper) :
    (lower = below ∧ t = s ∧ upper = above) ↔ ∀ u ∈ below, u.id ≠ s.id := by
  constructor
  · rintro ⟨rfl, -, -⟩
    exact hplace.lowest
  · intro hbelow
    exact hplace.unique ⟨htopmost.shapes, rfl, hbelow⟩

end Sheet

/-! ## Presses and moves -/

omit [Scalar α] in
lemma way_moves (moves : List (Point α)) : way (moves.map Event.move) = moves := by
  induction moves with
  | nil => rfl
  | cons p moves ih =>
    rw [List.map_cons, way_cons, ih]
    rfl

omit [Scalar α] in
lemma lastTool_moves (tool : Tool) (moves : List (Point α)) :
    lastTool tool (moves.map Event.move) = tool := by
  induction moves with
  | nil => rfl
  | cons p moves ih =>
    rw [List.map_cons, lastTool_cons]
    exact ih

namespace Editor

variable {e : Editor α}

/-- Without a gesture the moves of the pointer do nothing. -/
lemma run_moves_of_idle (hidle : e.gesture = .idle) (moves : List (Point α)) :
    (e.run (moves.map .move)).1 = e := by
  refine run_induction (P := (· = e)) ?_ rfl
  rintro _ rfl event hevent
  obtain ⟨p, -, rfl⟩ := List.mem_map.1 hevent
  simp [handle, move, follow, hidle]

/-- Between gestures and without a selection only the shapes are drawn. -/
lemma record_render_of_idle (hidle : e.gesture = .idle) (hselected : e.selected = none) :
    (record none e.render).1 =
      backgroundCalls e.width e.height ++ e.sheet.shapes.flatMap fun s => calls s.draw := by
  rw [render, drawScene_eq_play, record_play, calls_drawScene]
  simp [preview, hidle, hselected, backgroundCalls]

/-- A press on a point on which no shape lies begins nothing. -/
lemma run_press_of_bare (hidle : e.gesture = .idle) (htool : e.tool = .select)
    (hselected : e.selected = none) {p : Point α} (hbare : e.sheet.topmostAt? p = none)
    (moves : List (Point α)) : ((e.press p .primary).1.run (moves.map .move)).1 = e := by
  have hnothing : e.sheet.hit? e.selected p = none := by
    rw [hselected, Sheet.hit?_of_unselected, hbare]
    rfl
  rw [press_of_nothing hidle htool hnothing, ← hselected, run_moves_of_idle hidle]

/-- A press on the topmost shape and the moves after it carry the shape that its identifier
addresses. -/
lemma run_press_of_topmost (hidle : e.gesture = .idle) (htool : e.tool = .select)
    (hselected : e.selected = none) {p : Point α} {s : Shape α}
    (htop : e.sheet.topmostAt? p = some s) (moves : List (Point α)) :
    ∃ lower t upper, e.sheet.Place s.id lower t upper ∧
      ((e.press p .primary).1.run (moves.map .move)).1 =
        { e with
          sheet := ⟨lower ++ t.carried p moves :: upper⟩
          selected := some s.id
          gesture := .dragging s.id (moves.getLastD p) t.x t.y } := by
  have hhit : e.sheet.hit? e.selected p = some ⟨s.id, .body⟩ := by
    rw [hselected, Sheet.hit?_of_unselected, htop]
    rfl
  obtain ⟨t, lower, upper, hplace, hpressed⟩ := exists_place_of_press hidle htool hhit
  refine ⟨lower, t, upper, hplace, ?_⟩
  have hgesture : (e.press p .primary).1.gesture = .dragging s.id p t.x t.y := by rw [hpressed]
  have hplace' : (e.press p .primary).1.sheet.Place s.id lower t upper := by
    rw [hpressed]
    exact hplace
  have hmoves : ∀ event ∈ moves.map Event.move, event.endsGesture = false := by
    simp [Event.endsGesture]
  rw [run_of_dragging hgesture hplace' hmoves, hpressed, way_moves, lastTool_moves]

/-- A press on a point on which no shape lies does nothing, and nothing is moved by the pointer
afterwards.  If there are shapes under the point, the topmost of them is drawn last and is hit, and
the moves of the pointer carry the lowest shape with its identifier: the topmost one itself exactly
if no shape below has the same identifier. -/
theorem carried_of_press (hidle : e.gesture = .idle) (htool : e.tool = .select)
    (hselected : e.selected = none) (p : Point α) (moves : List (Point α)) :
    let after := ((e.press p .primary).1.run (moves.map .move)).1
    ((∀ s ∈ e.sheet.shapes, s.contains p = false) → after = e) ∧
      ((∃ s ∈ e.sheet.shapes, s.contains p = true) →
        ∃ below s above, e.sheet.Topmost p below s above ∧
          (record none e.render).1 =
            backgroundCalls e.width e.height ++ below.flatMap (fun u => calls u.draw) ++
              calls s.draw ++ above.flatMap (fun u => calls u.draw) ∧
          ∃ lower t upper, e.sheet.Place s.id lower t upper ∧
            after =
              { e with
                sheet := ⟨lower ++ t.carried p moves :: upper⟩
                selected := some s.id
                gesture := .dragging s.id (moves.getLastD p) t.x t.y } ∧
            (lower = below ∧ t = s ∧ upper = above ↔ ∀ u ∈ below, u.id ≠ s.id)) := by
  intro after
  constructor
  · intro hbare
    exact run_press_of_bare hidle htool hselected (Sheet.topmostAt?_eq_none_iff.2 hbare) moves
  · rintro ⟨u, hu, hcontains⟩
    obtain ⟨s, htop⟩ : ∃ s, e.sheet.topmostAt? p = some s := by
      refine Option.ne_none_iff_exists'.1 fun hnone => ?_
      rw [Sheet.topmostAt?_eq_none_iff.1 hnone u hu] at hcontains
      cases hcontains
    obtain ⟨below, above, htopmost⟩ := Sheet.exists_topmost htop
    obtain ⟨lower, t, upper, hplace, hcarried⟩ :=
      run_press_of_topmost hidle htool hselected htop moves
    refine ⟨below, s, above, htopmost, ?_, lower, t, upper, hplace, hcarried,
      htopmost.place_eq_iff hplace⟩
    rw [record_render_of_idle hidle hselected, htopmost.shapes]
    simp

end Editor

end

namespace Editor

/-- Two rectangles with one identifier, far away from each other. -/
def doubled : Sheet Float :=
  ⟨[⟨.ofNat 1, .rectangle, 0, 0, 10, 10, 0, .descending, .default⟩,
    ⟨.ofNat 1, .rectangle, 100, 100, 50, 50, 0, .descending, .default⟩]⟩

theorem carried_of_press_doubled :
    let e : Editor Float := Editor.new.load doubled
    e.gesture = .idle ∧ e.tool = .select ∧ e.selected = none ∧
      (∃ s ∈ e.sheet.shapes, s.contains ⟨110, 110⟩ = true) ∧
      ∃ below s above, e.sheet.Topmost ⟨110, 110⟩ below s above ∧
        ∃ lower t upper, e.sheet.Place s.id lower t upper ∧
          ((e.press ⟨110, 110⟩ .primary).1.run ([⟨120, 110⟩].map .move)).1.sheet =
            ⟨lower ++ t.carried ⟨110, 110⟩ [⟨120, 110⟩] :: upper⟩ := by
  intro e
  have hunder : ∃ s ∈ e.sheet.shapes, s.contains ⟨110, 110⟩ = true := by decide +kernel
  obtain ⟨below, s, above, htopmost, -, lower, t, upper, hplace, hcarried, -⟩ :=
    (carried_of_press (show e.gesture = .idle from rfl) rfl rfl ⟨110, 110⟩ [⟨120, 110⟩]).2 hunder
  refine ⟨rfl, rfl, rfl, hunder, below, s, above, htopmost, lower, t, upper, hplace, ?_⟩
  rw [hcarried]

lemma ofJsonText_doubled : Sheet.ofJsonText doubled.jsonText = .ok doubled := by
  have hfinite : ∀ s ∈ doubled.shapes, s.IsFinite := by decide +kernel
  have hback : ∀ s ∈ doubled.shapes, s.ReadsBack := by decide +kernel
  have hnormal : doubled.shapes.map Shape.normalize = doubled.shapes := by decide +kernel
  rw [Sheet.ofJsonText_of_readsBack hfinite hback, hnormal]

/-- A press on the upper rectangle drags the lower one, on which the point does not lie. -/
theorem not_always_topmost_carried :
    ¬ ∀ (text : String) (sheet : Sheet Float) (p : Point Float) (moves : List (Point Float))
        (below above : List (Shape Float)) (s : Shape Float),
      Sheet.ofJsonText text = .ok sheet ∨ Sheet.ofXmlText text = .ok sheet →
      p.x.isFinite = true → p.y.isFinite = true → sheet.Topmost p below s above →
        let e : Editor Float := Editor.new.load sheet
        ((e.press p .primary).1.run (moves.map .move)).1.sheet =
          ⟨below ++ s.carried p moves :: above⟩ := by
  intro h
  have htopmost : doubled.Topmost ⟨110, 110⟩ (doubled.shapes.take 1) (doubled.shapes[1]) [] :=
    ⟨rfl, by decide +kernel, by simp⟩
  have hcarried := h _ _ _ [⟨120, 110⟩] _ _ _ (.inl ofJsonText_doubled) rfl rfl htopmost
  revert hcarried
  decide +kernel

end Editor

end Atelier

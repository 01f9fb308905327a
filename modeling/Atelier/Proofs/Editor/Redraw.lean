/-
When the host is told to draw the scene again.

An event that changes the scene asks for it to be drawn, with one exception: the release that
puts the shape of a gesture back where it was at the press.  There is nothing to report then,
and the request to draw goes missing with the report, although the shape was last drawn where
the pointer had carried it.
-/
import Atelier.Proofs.Drawing.Calls
import Atelier.Proofs.Editor.Selection

namespace Atelier

variable {α : Type} [Scalar α]

namespace Editor

/-! ## The scene -/

/-- The calls that drawing the scene issues. -/
def scene (e : Editor α) : List (Call α) :=
  (record none e.render).1

lemma scene_eq_calls (e : Editor α) :
    e.scene = calls (drawScene e.sheet e.selected (e.preview (.ofNat 0)) e.width e.height) := by
  rw [scene, render, drawScene_eq_play, record_play]

lemma preview_eq_none_of_target {e : Editor α} {id shown : ShapeId}
    (h : e.gesture.target? = some id) : e.preview shown = none := by
  cases hgesture : e.gesture with
  | drawing => simp [hgesture] at h
  | _ => simp [preview, hgesture]

/-- The scene before and after a change of the selected shape differ if and only if the shape
or its marks are drawn differently. -/
lemma scene_modify_eq_iff {e : Editor α} {id : ShapeId} {s : Shape α} {f : Shape α → Shape α}
    (hselected : e.selected = some id) (htarget : e.gesture.target? = some id)
    (hs : e.sheet.get? id = some s) (hid : KeepsId f) (hkind : (f s).kind = s.kind) :
    ({ e with sheet := e.sheet.modify id f, gesture := .idle } : Editor α).scene = e.scene ↔
      calls (f s).draw = calls s.draw ∧ calls (f s).drawMarks = calls s.drawMarks := by
  obtain ⟨below, above, hshapes, -, hmodify⟩ := Sheet.split_modify hs
  have hmodified : (e.sheet.modify id f).get? id = some (f s) := by
    rw [Sheet.get?_modify hid, hs, Option.map_some]
  have hlength := Shape.length_calls_draw hkind
  have hbusy : e.preview (.ofNat 0) = none := preview_eq_none_of_target htarget
  have hidle : ({ e with sheet := e.sheet.modify id f, gesture := .idle } : Editor α).preview
      (.ofNat 0) = none := rfl
  rw [scene_eq_calls, scene_eq_calls, calls_drawScene, calls_drawScene, hbusy, hidle]
  simp only [hselected, Option.bind_some, hs, hmodified, hshapes, hmodify]
  constructor
  · -- A shape is drawn with as many calls before as after, which tells the two parts apart.
    intro h
    obtain ⟨hdraw, hrest⟩ : calls (f s).draw = calls s.draw ∧
        above.flatMap (fun t => calls t.draw) ++ calls (f s).drawMarks =
          above.flatMap (fun t => calls t.draw) ++ calls s.drawMarks :=
      List.append_inj (by simpa using h) hlength
    exact ⟨hdraw, List.append_cancel_left hrest⟩
  · rintro ⟨hdraw, hmarks⟩
    simp [hdraw, hmarks]

/-! ## The missing request -/

/-- Exactly one kind of event changes the scene without a request to draw it: the release of
the primary button that gives the shape of a gesture its numbers of the press again, when the
shape was drawn with others. -/
theorem stale_iff {e : Editor α} (h : e.Reachable) (event : Event α) :
    ((e.handle event).1.scene ≠ e.scene ∧ Action.render ∉ (e.handle event).2) ↔
      ∃ p fresh id s, event = .release p .primary fresh ∧ e.gesture.target? = some id ∧
        e.sheet.get? id = some s ∧ e.gesture.hasChanged (e.gesture.apply p s) = false ∧
        (calls (e.gesture.apply p s).draw ≠ calls s.draw ∨
          calls (e.gesture.apply p s).drawMarks ≠ calls s.drawMarks) := by
  have hconsistent := h.consistent
  constructor
  · rintro ⟨hscene, hrender⟩
    have hstep := step_handle e event
    generalize (e.handle event).2 = actions at hstep hrender
    generalize (e.handle event).1 = e' at hstep hscene
    cases hstep with
    | ignore => exact absurd rfl hscene
    | setTool => exact absurd rfl hscene
    | draw | grab | deselect | stretch | change | add | report | cancel | delete =>
      simp at hrender
    -- In a reachable state the shape that is held or selected is there.
    | lose htarget hgone =>
      have hpresent := hconsistent.present _ (hconsistent.held _ htarget)
      simp [hgone] at hpresent
    | forget _ _ hselected hgone =>
      have hpresent := hconsistent.present _ hselected
      simp [hgone] at hpresent
    | @settle p fresh id s htarget hs hunchanged =>
      refine ⟨p, fresh, id, s, rfl, htarget, hs, hunchanged, ?_⟩
      rw [Ne, scene_modify_eq_iff (hconsistent.held id htarget) htarget hs
        (e.gesture.keepsId_apply p) (e.gesture.kind_apply p s), not_and_or] at hscene
      exact hscene
  · rintro ⟨p, fresh, id, s, rfl, htarget, hs, hunchanged, hdrawn⟩
    rw [handle, release_of_target htarget hs, hunchanged]
    refine ⟨?_, by simp⟩
    rw [Ne, scene_modify_eq_iff (hconsistent.held id htarget) htarget hs
      (e.gesture.keepsId_apply p) (e.gesture.kind_apply p s), not_and_or]
    exact hdrawn

/-- A rectangle that the pointer has carried from `(50, 30)` to `(90, 70)`. -/
def carried : Editor Float :=
  ((Editor.new.load ⟨[⟨.ofNat 1, .rectangle, 10, 10, 100, 50, 0, .descending, .default⟩]⟩).run
    [.press ⟨50, 30⟩ .primary, .move ⟨90, 70⟩]).1

lemma reachable_carried : carried.Reachable :=
  reachable_run (.load _ (.ofSize _ _)) _

theorem stale_iff_carried :
    carried.Reachable ∧
      (carried.handle (.release ⟨50, 30⟩ .primary (.ofNat 2))).1.scene ≠ carried.scene ∧
        Action.render ∉ (carried.handle (.release ⟨50, 30⟩ .primary (.ofNat 2))).2 := by
  refine ⟨reachable_carried, (stale_iff reachable_carried _).2 ⟨⟨50, 30⟩, .ofNat 2, .ofNat 1,
    ⟨.ofNat 1, .rectangle, 50, 50, 100, 50, 0, .descending, .default⟩, rfl, ?_, ?_, ?_, .inl ?_⟩⟩
    <;> decide +kernel

/-- A change of the scene does not always come with a request to draw it. -/
theorem not_always_redrawn :
    ¬ ∀ (e : Editor Float) (event : Event Float), e.Reachable →
      (e.handle event).1.scene ≠ e.scene → Action.render ∈ (e.handle event).2 := by
  intro h
  have hrender := h carried (.release ⟨50, 30⟩ .primary (.ofNat 2)) reachable_carried
    (by decide +kernel)
  have hnothing : (carried.handle (.release ⟨50, 30⟩ .primary (.ofNat 2))).2 = [] := by
    decide +kernel
  simp [hnothing] at hrender

end Editor

end Atelier

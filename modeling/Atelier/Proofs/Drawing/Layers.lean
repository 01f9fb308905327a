/-
The layers of a scene.

A scene is drawn in blocks of calls: the background, one block for each shape from bottom to top,
three for the marks of the selected shape, and one for the shape that is being dragged out.  Each
block takes back what it does to the surface.  It saves the state before it moves the axes and
restores it at the end, it never saves twice, and it makes the pen solid again.  So no block shows
in the next one, and a scene of blocks is as tidy as they are (`recorded_render`).
-/
import Atelier.Editor.Basic
import Atelier.Proofs.Drawing.Calls
import Atelier.Proofs.Sheet

namespace Atelier

variable {α : Type}

/-! ## Frames

The calls between a `save` and its `restore` are a frame. -/

namespace Call

/-- How many frames a call opens: a `restore` closes one. -/
def opens : Call α → ℤ
  | save => 1
  | restore => -1
  | _ => 0

/-- Whether a call moves or turns the axes. -/
def movesAxes : Call α → Bool
  | translate .. | rotate .. => true
  | _ => false

/-- Whether a call gives the pen dashes or takes them away. -/
def setsDash : Call α → Bool
  | setLineDash _ => true
  | _ => false

lemma opens_of_movesAxes {c : Call α} (h : c.movesAxes = true) : c.opens = 0 := by
  cases c <;> first | rfl | cases h

lemma opens_of_fallible {c : Call α} (h : c.fallible = true) : c.opens = 0 := by
  cases c <;> first | rfl | cases h

end Call

/-- The number of frames that calls open and do not close. -/
def openFrames : List (Call α) → ℤ
  | [] => 0
  | c :: cs => c.opens + openFrames cs

@[simp] lemma openFrames_nil : openFrames ([] : List (Call α)) = 0 := rfl

@[simp] lemma openFrames_cons (c : Call α) (cs : List (Call α)) :
    openFrames (c :: cs) = c.opens + openFrames cs := rfl

@[simp] lemma openFrames_append (cs ds : List (Call α)) :
    openFrames (cs ++ ds) = openFrames cs + openFrames ds := by
  induction cs with
  | nil => exact (Int.zero_add _).symm
  | cons c cs ih => rw [List.cons_append, openFrames_cons, openFrames_cons, ih, Int.add_assoc]

lemma openFrames_eq_zero {cs : List (Call α)} (h : ∀ c ∈ cs, c.opens = 0) : openFrames cs = 0 := by
  induction cs with
  | nil => rfl
  | cons c cs ih =>
    rw [openFrames_cons, h c (by simp), ih fun d hd => h d (by simp [hd]), Int.add_zero]

/-- Calls that take back what they do to the state of a surface. -/
structure Tidy (cs : List (Call α)) : Prop where
  /-- Every frame is closed. -/
  closed : openFrames cs = 0
  /-- At every point there is at most one frame open, and none is closed that is not open. -/
  flat : ∀ before after, cs = before ++ after → openFrames before = 0 ∨ openFrames before = 1
  /-- The axes are moved inside a frame only. -/
  framed : ∀ before c after, cs = before ++ c :: after → c.movesAxes = true →
    openFrames before = 1
  /-- A pen with dashes is made solid again before its frame is closed. -/
  solid : ∀ before dash after, cs = before ++ .setLineDash dash :: after → dash ≠ [] →
    ∃ dashed plain rest, after = dashed ++ .setLineDash [] :: (plain ++ .restore :: rest) ∧
      .restore ∉ dashed ∧ .restore ∉ plain

/-- A call of two lists in a row is one of the first or one of the second. -/
lemma append_eq_append_cons {cs ds before after : List (Call α)} {c : Call α}
    (h : cs ++ ds = before ++ c :: after) :
    (∃ rest, cs = before ++ c :: rest ∧ after = rest ++ ds) ∨
      (∃ start, before = cs ++ start ∧ ds = start ++ c :: after) := by
  rcases List.append_eq_append_iff.1 h with ⟨start, hbefore, hds⟩ | ⟨rest, hcs, hafter⟩
  · exact .inr ⟨start, hbefore, hds⟩
  · cases rest with
    | nil =>
      rw [List.append_nil] at hcs
      exact .inr ⟨[], by rw [hcs, List.append_nil], hafter.symm⟩
    | cons d rest =>
      obtain ⟨rfl, rfl⟩ := List.cons.inj hafter
      exact .inl ⟨rest, hcs, rfl⟩

/-! ## Putting calls together -/

/-- What holds of no calls and of two lists in a row holds of any number of lists in a row. -/
lemma flatMap_induction {P : List (Call α) → Prop} (nil : P [])
    (append : ∀ cs ds, P cs → P ds → P (cs ++ ds)) {β : Type} {f : β → List (Call α)}
    (h : ∀ b, P (f b)) (l : List β) : P (l.flatMap f) := by
  induction l with
  | nil => exact nil
  | cons b l ih => exact append _ _ (h b) ih

lemma elim_induction {P : List (Call α) → Prop} (nil : P []) {β : Type} {f : β → List (Call α)}
    (h : ∀ b, P (f b)) (o : Option β) : P (o.elim [] f) := by
  cases o with
  | none => exact nil
  | some b => exact h b

/-- The calls of a sort stand inside of a frame only. -/
def InFrame (sort : Call α → Bool) (cs : List (Call α)) : Prop :=
  ∀ before c after, cs = before ++ c :: after → sort c = true → openFrames before = 1

namespace InFrame

variable {sort : Call α → Bool} {cs ds : List (Call α)}

lemma of_none (h : ∀ c ∈ cs, sort c = false) : InFrame sort cs := by
  rintro before c after rfl hc
  rw [h c (by simp)] at hc
  cases hc

lemma append (hclosed : openFrames cs = 0) (hcs : InFrame sort cs) (hds : InFrame sort ds) :
    InFrame sort (cs ++ ds) := by
  intro before c after h hc
  rcases append_eq_append_cons h with ⟨rest, hcs', -⟩ | ⟨start, rfl, hds'⟩
  · exact hcs before c rest hcs' hc
  · rw [openFrames_append, hclosed, Int.zero_add]
    exact hds start c after hds' hc

end InFrame

namespace Tidy

variable {cs ds : List (Call α)}

lemma nil : Tidy ([] : List (Call α)) where
  closed := rfl
  flat before after h := by
    obtain ⟨rfl, -⟩ := List.append_eq_nil_iff.1 h.symm
    exact .inl rfl
  framed := InFrame.of_none (by simp)
  solid before dash after h := by simp at h

/-- Tidy calls can follow each other: the first end with no frame open. -/
lemma append (hcs : Tidy cs) (hds : Tidy ds) : Tidy (cs ++ ds) where
  closed := by rw [openFrames_append, hcs.closed, hds.closed, Int.add_zero]
  flat := by
    -- A cut is in the second calls, behind all of the first, or in the first.
    intro before after h
    rcases List.append_eq_append_iff.1 h with ⟨start, rfl, hds'⟩ | ⟨rest, hcs', -⟩
    · rw [openFrames_append, hcs.closed, Int.zero_add]
      exact hds.flat start after hds'
    · exact hcs.flat before rest hcs'
  framed := InFrame.append hcs.closed hcs.framed hds.framed
  solid := by
    intro before dash after h hdash
    rcases append_eq_append_cons h with ⟨rest, hcs', rfl⟩ | ⟨start, -, hds'⟩
    · obtain ⟨dashed, plain, rest', rfl, hdashed, hplain⟩ := hcs.solid before dash rest hcs' hdash
      exact ⟨dashed, plain, rest' ++ ds, by simp, hdashed, hplain⟩
    · exact hds.solid start dash after hds' hdash

lemma flatMap {β : Type} {l : List β} {f : β → List (Call α)} (h : ∀ b, Tidy (f b)) :
    Tidy (l.flatMap f) :=
  flatMap_induction nil (fun _ _ => append) h l

lemma elim {β : Type} {o : Option β} {f : β → List (Call α)} (h : ∀ b, Tidy (f b)) :
    Tidy (o.elim [] f) :=
  elim_induction nil h o

/-- Calls outside of all frames are tidy if they leave the axes and the dashes alone. -/
lemma of_plain
    (h : ∀ c ∈ cs, c.opens = 0 ∧ c.movesAxes = false ∧ c.setsDash = false) : Tidy cs where
  closed := openFrames_eq_zero fun c hc => (h c hc).1
  flat := by
    rintro before after rfl
    exact .inl (openFrames_eq_zero fun c hc => (h c (List.mem_append_left _ hc)).1)
  framed := InFrame.of_none fun c hc => (h c hc).2.1
  solid := by
    rintro before dash after rfl
    have hplain := h (.setLineDash dash) (by simp)
    cases hplain.2.2

end Tidy

/-- Calls after which a pen with dashes has been made solid again. -/
def EndsSolid (cs : List (Call α)) : Prop :=
  ∀ before dash after, cs = before ++ .setLineDash dash :: after → dash ≠ [] →
    .setLineDash [] ∈ after

lemma endsSolid_nil : EndsSolid ([] : List (Call α)) := by
  intro before dash after h
  simp at h

/-- Only the first call is new when one is put in front. -/
lemma EndsSolid.cons {c : Call α} {cs : List (Call α)} (hcs : EndsSolid cs)
    (hc : ∀ dash, c = .setLineDash dash → dash ≠ [] → .setLineDash [] ∈ cs) :
    EndsSolid (c :: cs) := by
  intro before dash after h hdash
  rcases List.append_eq_cons_iff.1 h.symm with ⟨-, hfirst⟩ | ⟨start, -, hrest⟩
  · obtain ⟨hdashed, rfl⟩ := List.cons.inj hfirst
    exact hc dash hdashed.symm hdash
  · exact hcs start dash after hrest hdash

lemma endsSolid_of_noDash {cs : List (Call α)} (h : ∀ c ∈ cs, c.setsDash = false) :
    EndsSolid cs := by
  rintro before dash after rfl
  have hnone := h (.setLineDash dash) (by simp)
  cases hnone

/-- Where a frame can be cut: in front of it, inside of it, or behind it. -/
lemma split_frame {body before after : List (Call α)}
    (h : .save :: (body ++ [.restore]) = before ++ after) :
    before = [] ∧ after = .save :: (body ++ [.restore]) ∨
      (∃ start rest, before = .save :: start ∧ body = start ++ rest ∧
        after = rest ++ [.restore]) ∨
      before = .save :: (body ++ [.restore]) ∧ after = [] := by
  rcases List.append_eq_cons_iff.1 h.symm with ⟨rfl, hafter⟩ | ⟨start, rfl, hbody⟩
  · exact .inl ⟨rfl, hafter⟩
  · rcases List.append_eq_append_iff.1 hbody with ⟨last, rfl, hlast⟩ | ⟨rest, hrest, rfl⟩
    · -- Behind the body there is only the call that closes the frame.
      rcases List.append_eq_cons_iff.1 hlast.symm with ⟨rfl, rfl⟩ | ⟨tail, rfl, htail⟩
      · exact .inr (.inl ⟨body, [], by simp, by simp, rfl⟩)
      · obtain ⟨rfl, rfl⟩ := List.append_eq_nil_iff.1 htail.symm
        exact .inr (.inr ⟨rfl, rfl⟩)
    · exact .inr (.inl ⟨start, rest, rfl, hrest, rfl⟩)

/-- A single frame, with no other frame inside of it. -/
def Framed (cs : List (Call α)) : Prop :=
  ∃ body, cs = .save :: (body ++ [.restore]) ∧ ∀ c ∈ body, c.opens = 0

/-- At every point inside of a frame it is the one that is open. -/
lemma openFrames_inside {body start rest : List (Call α)} (hbody : ∀ c ∈ body, c.opens = 0)
    (hcut : body = start ++ rest) : openFrames (.save :: start) = 1 := by
  have hstart : openFrames start = 0 :=
    openFrames_eq_zero fun c hc => hbody c (hcut ▸ List.mem_append_left rest hc)
  simp [hstart, Call.opens]

namespace Framed

variable {cs : List (Call α)}

lemma closed (hcs : Framed cs) : openFrames cs = 0 := by
  obtain ⟨body, rfl, hbody⟩ := hcs
  simp [openFrames_eq_zero hbody, Call.opens]

/-- Whatever neither opens nor closes a frame stands inside. -/
lemma inFrame (hcs : Framed cs) {sort : Call α → Bool}
    (hsort : ∀ c, sort c = true → c.opens = 0) : InFrame sort cs := by
  obtain ⟨body, rfl, hbody⟩ := hcs
  intro before c after h hc
  have hopens := hsort c hc
  rcases split_frame h with ⟨-, hafter⟩ | ⟨start, rest, rfl, hcut, -⟩ | ⟨-, hafter⟩
  · obtain ⟨rfl, -⟩ := List.cons.inj hafter
    cases hopens
  · exact openFrames_inside hbody hcut
  · cases hafter

/-- A single frame may do with the axes and the dashes what it likes, as long as the pen is solid
at the end. -/
lemma tidy (hcs : Framed cs) (hsolid : EndsSolid cs) : Tidy cs := by
  refine ⟨hcs.closed, ?flat, ?framed, ?solid⟩
  case flat =>
    intro before after h
    have hclosed := hcs.closed
    obtain ⟨body, rfl, hbody⟩ := hcs
    rcases split_frame h with ⟨rfl, -⟩ | ⟨start, rest, rfl, hcut, -⟩ | ⟨rfl, -⟩
    · exact .inl rfl
    · exact .inr (openFrames_inside hbody hcut)
    · exact .inl hclosed
  case framed => exact hcs.inFrame fun c hc => Call.opens_of_movesAxes hc
  case solid =>
    intro before dash after h hdash
    obtain ⟨body, rfl, hbody⟩ := hcs
    have hrestore : .restore ∉ body := by
      intro hmem
      have hzero := hbody _ hmem
      simp [Call.opens] at hzero
    rcases split_frame h with ⟨-, hafter⟩ | ⟨start, rest, -, hcut, hafter⟩ | ⟨-, hafter⟩
    · cases (List.cons.inj hafter).1
    · rcases List.append_eq_cons_iff.1 hafter.symm with ⟨-, hlast⟩ | ⟨rest, rfl, rfl⟩
      · cases (List.cons.inj hlast).1
      · have hplain : .setLineDash [] ∈ rest := by
          rcases List.mem_append.1 (hsolid before dash _ h hdash) with hrest | hlast
          · exact hrest
          · simp at hlast
        obtain ⟨dashed, plain, rfl⟩ := List.append_of_mem hplain
        refine ⟨dashed, plain, [], by simp, fun hmem => ?_, fun hmem => ?_⟩
        · exact hrestore (by simp [hcut, hmem])
        · exact hrestore (by simp [hcut, hmem])
    · cases hafter

end Framed

/-! ## The blocks of a scene -/

section

variable [Scalar α]

namespace Shape

variable (s : Shape α)

lemma framed_draw : Framed (calls s.draw) := by
  refine ⟨calls s.enterFrame ++ [.setFillStyle s.paint.fill, .setStrokeStyle s.paint.stroke,
    .setLineWidth s.paint.lineWidth] ++ calls s.drawPrimitive, by simp [draw], ?_⟩
  cases hkind : s.kind with
  | line =>
    cases hslope : s.slope <;> simp [enterFrame, drawPrimitive, hkind, hslope, Call.opens]
  | _ => simp [enterFrame, drawPrimitive, hkind, Call.opens]

lemma framed_drawSelection : Framed (calls s.drawSelection) :=
  ⟨(calls s.drawSelection).tail.dropLast, by simp [drawSelection],
    by simp [drawSelection, enterFrame, Call.opens]⟩

lemma framed_drawHandles : Framed (calls s.drawHandles) :=
  ⟨(calls s.drawHandles).tail.dropLast, by simp [drawHandles, Anchor.all],
    by simp [drawHandles, Anchor.all, Call.opens]⟩

lemma framed_drawRotationHandle : Framed (calls s.drawRotationHandle) :=
  ⟨(calls s.drawRotationHandle).tail.dropLast, by simp [drawRotationHandle],
    by simp [drawRotationHandle, Call.opens]⟩

lemma tidy_draw : Tidy (calls s.draw) := by
  refine s.framed_draw.tidy (endsSolid_of_noDash ?_)
  cases hkind : s.kind with
  | line =>
    cases hslope : s.slope <;>
      simp [draw, enterFrame, drawPrimitive, hkind, hslope, Call.setsDash]
  | _ => simp [draw, enterFrame, drawPrimitive, hkind, Call.setsDash]

/-- The outline is the only block with dashes. -/
lemma tidy_drawSelection : Tidy (calls s.drawSelection) := by
  refine s.framed_drawSelection.tidy ?_
  simp only [drawSelection, enterFrame, calls_bind, calls_call, List.cons_append, List.nil_append]
  -- The first dashes are taken away by the call behind the outline, and no others follow.
  repeat refine EndsSolid.cons ?_ (by simp)
  exact endsSolid_nil

lemma tidy_drawHandles : Tidy (calls s.drawHandles) :=
  s.framed_drawHandles.tidy
    (endsSolid_of_noDash (by simp [drawHandles, Anchor.all, Call.setsDash]))

lemma tidy_drawRotationHandle : Tidy (calls s.drawRotationHandle) :=
  s.framed_drawRotationHandle.tidy
    (endsSolid_of_noDash (by simp [drawRotationHandle, Call.setsDash]))

/-- The three blocks of the marks. -/
lemma calls_drawMarks : calls s.drawMarks =
    calls s.drawSelection ++ calls s.drawHandles ++ calls s.drawRotationHandle := by
  simp [drawMarks]

lemma tidy_drawMarks : Tidy (calls s.drawMarks) := by
  rw [calls_drawMarks]
  exact (s.tidy_drawSelection.append s.tidy_drawHandles).append s.tidy_drawRotationHandle

end Shape

/-- The calls for the marks of a selection: those of the lowest shape with the selected
identifier, and none if there is no such shape. -/
inductive Marks (selected : Option ShapeId) (shapes : List (Shape α)) : List (Call α) → Prop where
  | shown {below above : List (Shape α)} {s : Shape α} (hselected : selected = some s.id)
      (hshapes : shapes = below ++ s :: above) (hlowest : ∀ t ∈ below, t.id ≠ s.id) :
      Marks selected shapes
        (calls s.drawSelection ++ calls s.drawHandles ++ calls s.drawRotationHandle)
  | absent (h : ∀ s ∈ shapes, selected ≠ some s.id) : Marks selected shapes []

/-- The marks are drawn for the shape that the selection addresses. -/
lemma marks_get? (sheet : Sheet α) (selected : Option ShapeId) :
    Marks selected sheet.shapes
      ((selected.bind sheet.get?).elim [] fun s => calls s.drawMarks) := by
  cases selected with
  | none => exact .absent fun s _ h => by cases h
  | some id =>
    cases hs : sheet.get? id with
    | none =>
      have hnone : id ∉ sheet.shapes.map Shape.id := by
        rw [← Sheet.isSome_get?_iff, hs]
        simp
      rw [Option.bind_some, hs]
      refine .absent fun s hmem h => hnone ?_
      rw [Option.some.inj h]
      exact List.mem_map_of_mem hmem
    | some s =>
      obtain rfl := Sheet.id_of_get? hs
      obtain ⟨below, above, hshapes, hlowest⟩ := Sheet.split_of_get? hs
      rw [Option.bind_some, hs, Option.elim_some, Shape.calls_drawMarks]
      exact .shown rfl hshapes hlowest

/-! ## Scenes -/

/-- The calls for the background. -/
def backgroundCalls (width height : α) : List (Call α) :=
  [.clearRect Scalar.zero Scalar.zero width height, .setFillStyle backgroundColor,
    .fillRect Scalar.zero Scalar.zero width height]

lemma tidy_backgroundCalls (width height : α) : Tidy (backgroundCalls width height) :=
  .of_plain (by simp [backgroundCalls, Call.opens, Call.movesAxes, Call.setsDash])

lemma tidy_drawScene (sheet : Sheet α) (selected : Option ShapeId) (preview : Option (Shape α))
    (width height : α) : Tidy (calls (drawScene sheet selected preview width height)) := by
  rw [calls_drawScene]
  refine .append (.append (.append (tidy_backgroundCalls width height) ?_) ?_) ?_
  · exact .flatMap Shape.tidy_draw
  · exact .elim Shape.tidy_drawMarks
  · exact .elim Shape.tidy_draw

namespace Editor

/-- A shape that is dragged out is drawn the same under every identifier. -/
lemma calls_preview (e : Editor α) (id shown : ShapeId) :
    ((e.preview id).elim [] fun s => calls s.draw) =
      (e.preview shown).elim [] fun s => calls s.draw := by
  cases hgesture : e.gesture with
  | drawing kind anchor current =>
    simp only [preview, hgesture, Option.elim_some]
    cases kind <;> rfl
  | _ => simp [preview, hgesture]

/-- A surface that refuses no call gets the background, the shapes from bottom to top, the marks
of the lowest shape with the selected identifier, and the shape that is being dragged out, each
as one block.  The calls take back all that they do to the state of the surface. -/
theorem recorded_render (e : Editor α) (shown : ShapeId) :
    (record none e.render).2 = none ∧
      ∀ failAt, (record failAt e.render).2 = none →
        ∃ marks, Marks e.selected e.sheet.shapes marks ∧
          (record failAt e.render).1 =
            backgroundCalls e.width e.height ++ e.sheet.shapes.flatMap (fun s => calls s.draw) ++
              marks ++ (e.preview shown).elim [] (fun s => calls s.draw) ∧
          Tidy (record failAt e.render).1 := by
  have hplay : (e.render : Recording α Unit) =
      play (calls (drawScene e.sheet e.selected (e.preview shown) e.width e.height)) := by
    rw [render, drawScene_eq_play, calls_drawScene, calls_drawScene, calls_preview e _ shown]
  constructor
  · rw [hplay, record_play]
  · intro failAt h
    rw [hplay] at h ⊢
    rw [record_play_of_no_failure h]
    refine ⟨_, marks_get? e.sheet e.selected, ?_, tidy_drawScene ..⟩
    rw [calls_drawScene]
    rfl

/-- Two shapes with the identifier that is selected, while a triangle is dragged out. -/
def crowded : Editor Float where
  sheet := ⟨[⟨.ofNat 1, .ellipse, 10, 20, 30, 40, 0.5, .descending, .default⟩,
    ⟨.ofNat 1, .line, 0, 0, -5, 5, 0, .ascending, .default⟩]⟩
  tool := .draw .triangle
  selected := some (.ofNat 1)
  gesture := .drawing .triangle ⟨50, 60⟩ ⟨40, 70⟩
  width := 500
  height := 400

/-- Only twelve of its calls can be refused, so the thirteenth does not come. -/
theorem recorded_render_crowded :
    (record (some 13) crowded.render).2 = none ∧
      ∃ marks, Marks crowded.selected crowded.sheet.shapes marks ∧
        (record (some 13) crowded.render).1 =
          backgroundCalls 500 400 ++ crowded.sheet.shapes.flatMap (fun s => calls s.draw) ++
            marks ++ (crowded.preview (.ofNat 2)).elim [] (fun s => calls s.draw) ∧
        Tidy (record (some 13) crowded.render).1 := by
  have hnone : (record (some 13) crowded.render).2 = none := by decide +kernel
  exact ⟨hnone, (recorded_render crowded (.ofNat 2)).2 (some 13) hnone⟩

end Editor

end

end Atelier

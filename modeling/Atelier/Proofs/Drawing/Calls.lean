/-
A drawing is the list of its calls.

What a drawing does next never depends on the surface, so that it is determined by the calls
that it issues on a surface that refuses none.  `calls` lists them, and `play` issues them
again on any surface: a shape, its marks and a whole scene are all `play` of their calls
(`drawScene_eq_play`).  A recording of them has these calls, in order.
-/
import Mathlib.Control.Monad.Writer
import Atelier.Drawing.Scene

namespace Atelier

variable {α : Type}

/-! ## Listing and playing -/

/-- The surface that lists its calls and refuses none. -/
abbrev Listing (α : Type) := Writer (List (Call α))

instance : Surface α (Listing α) where
  call c := tell [c]

/-- The calls of a drawing. -/
def calls (drawing : Listing α Unit) : List (Call α) :=
  drawing.run.2

@[simp] lemma calls_pure : calls (pure () : Listing α Unit) = [] := rfl

@[simp] lemma calls_call (c : Call α) : calls (Surface.call c : Listing α Unit) = [c] := rfl

@[simp] lemma calls_bind (first : Listing α Unit) (next : Unit → Listing α Unit) :
    calls (first >>= next) = calls first ++ calls (next ()) := rfl

@[simp] lemma calls_forM {β : Type} (l : List β) (f : β → Listing α Unit) :
    calls (forM l f) = l.flatMap fun b => calls (f b) := by
  induction l with
  | nil => rfl
  | cons b rest ih =>
    rw [List.forM_cons, calls_bind, List.flatMap_cons, ih]

@[simp] lemma calls_forM_option {β : Type} (o : Option β) (f : β → Listing α Unit) :
    calls (forM o f) = o.elim [] fun b => calls (f b) := by
  cases o <;> rfl

variable {m : Type → Type} [Monad m] [Surface α m]

/-- Issues calls, in order. -/
def play (cs : List (Call α)) : m Unit :=
  forM cs Surface.call

@[simp] lemma play_nil : (play [] : m Unit) = pure () := rfl

@[simp] lemma play_cons (c : Call α) (cs : List (Call α)) :
    (play (c :: cs) : m Unit) = Surface.call c >>= fun _ => play cs := rfl

lemma play_elim {β : Type} (o : Option β) (f : β → List (Call α)) :
    (play (o.elim [] f) : m Unit) = forM o fun b => play (f b) := by
  cases o <;> rfl

variable [LawfulMonad m]

lemma play_append (cs ds : List (Call α)) :
    (play (cs ++ ds) : m Unit) = play cs >>= fun _ => play ds := by
  induction cs with
  | nil => simp
  | cons c cs ih => simp [ih]

lemma play_flatMap {β : Type} (l : List β) (f : β → List (Call α)) :
    (play (l.flatMap f) : m Unit) = forM l fun b => play (f b) := by
  induction l with
  | nil => rfl
  | cons b rest ih => rw [List.flatMap_cons, play_append, ih, List.forM_cons]

/-! ## Recordings -/

/-- After a drawing that succeeds, the next one goes on where it has stopped. -/
lemma run_bind_of_run_eq_ok {first : Recording α Unit} {next : Unit → Recording α Unit}
    {r r' : Recorder α} (h : first.run r = (.ok (), r')) :
    (first >>= next).run r = (next ()).run r' := by
  rw [ExceptT.run_bind]
  simp only [bind, StateT.bind, h]

/-- After a drawing that fails, the next one does not begin. -/
lemma run_bind_of_run_eq_error {first : Recording α Unit} {next : Unit → Recording α Unit}
    {r r' : Recorder α} {c : Call α} (h : first.run r = (.error c, r')) :
    (first >>= next).run r = (.error c, r') := by
  rw [ExceptT.run_bind]
  simp only [bind, StateT.bind, h]
  rfl

lemma run_play (cs before : List (Call α)) :
    (play cs : Recording α Unit).run ⟨before, none⟩ = (.ok (), ⟨before ++ cs, none⟩) := by
  induction cs generalizing before with
  | nil => 
    rw [List.append_nil]
    rfl
  | cons c cs ih =>
    have hcall : (Surface.call c : Recording α Unit).run ⟨before, none⟩ =
        (.ok (), ⟨before ++ [c], none⟩) := by
      cases c <;> rfl
    rw [play_cons, run_bind_of_run_eq_ok hcall, ih, List.append_assoc, List.singleton_append]

/-- A recording on a surface that refuses nothing has all the calls. -/
lemma record_play (cs : List (Call α)) : record none (play cs) = (cs, none) := by
  rw [record, run_play, List.nil_append]

@[simp] lemma Recorder.calls_take (r : Recorder α) (c : Call α) :
    (r.take c).1.calls = r.calls ++ [c] := by
  unfold take
  split
  · split <;> rfl
  · rfl

lemma run_call (c : Call α) (r : Recorder α) :
    (Surface.call c : Recording α Unit).run r =
      (if (r.take c).2 then .error c else .ok (), (r.take c).1) := by
  show (if (r.take c).2 then throw c else pure () : Recording α Unit).run (r.take c).1 = _
  cases (r.take c).2 <;> rfl

/-- Calls of which none has failed are all kept. -/
lemma calls_of_run_play {cs : List (Call α)} {r r' : Recorder α}
    (h : (play cs : Recording α Unit).run r = (.ok (), r')) : r'.calls = r.calls ++ cs := by
  induction cs generalizing r with
  | nil =>
    obtain ⟨-, rfl⟩ := Prod.mk.inj h
    rw [List.append_nil]
  | cons c cs ih =>
    cases hfailed : (r.take c).2 with
    | true =>
      have hcall := run_call c r
      rw [hfailed, if_pos rfl] at hcall
      rw [play_cons, run_bind_of_run_eq_error hcall] at h
      cases h
    | false =>
      have hcall : (Surface.call c : Recording α Unit).run r = (.ok (), (r.take c).1) := by
        rw [run_call, hfailed]
        rfl
      rw [play_cons, run_bind_of_run_eq_ok hcall] at h
      rw [ih h, Recorder.calls_take, List.append_assoc, List.singleton_append]

/-- A recording that meets no failure has all the calls, whichever call was to fail. -/
lemma record_play_of_no_failure {failAt : Option Nat} {cs : List (Call α)}
    (h : (record failAt (play cs)).2 = none) : (record failAt (play cs)).1 = cs := by
  unfold record at h ⊢
  cases hrun : (play cs : Recording α Unit).run { failAt } with
  | mk outcome r =>
    rw [hrun] at h
    cases outcome with
    | error c => cases h
    | ok => exact calls_of_run_play hrun

/-! ## Shapes and scenes -/

namespace Shape

variable [Scalar α]

lemma draw_eq_play (s : Shape α) : (s.draw : m Unit) = play (calls s.draw) := by
  cases hkind : s.kind with
  | line => cases hslope : s.slope <;> simp [draw, enterFrame, drawPrimitive, hkind, hslope]
  | _ => simp [draw, enterFrame, drawPrimitive, hkind]

lemma drawMarks_eq_play (s : Shape α) : (s.drawMarks : m Unit) = play (calls s.drawMarks) := by
  simp [drawMarks, drawSelection, drawHandles, drawRotationHandle, enterFrame, Anchor.all]

/-- Shapes of one kind are drawn with the same number of calls. -/
lemma length_calls_draw {s t : Shape α} (h : s.kind = t.kind) :
    (calls s.draw).length = (calls t.draw).length := by
  have hprimitive : (calls s.drawPrimitive).length = (calls t.drawPrimitive).length := by
    cases ht : t.kind with
    | line =>
      -- Only the heights of the two ends depend on the slope.
      cases hs : s.slope <;> cases hslope : t.slope <;>
        simp [drawPrimitive, h, ht, hs, hslope]
    | _ => simp [drawPrimitive, h, ht]
  simp [draw, enterFrame, hprimitive]

end Shape

variable [Scalar α] (sheet : Sheet α) (selected : Option ShapeId) (preview : Option (Shape α))
  (width height : α)

/-- The calls of a scene: the background, the shapes from bottom to top, the marks of the
selected shape, and the shape that is being dragged out. -/
lemma calls_drawScene :
    calls (drawScene sheet selected preview width height) =
      [.clearRect Scalar.zero Scalar.zero width height, .setFillStyle backgroundColor,
        .fillRect Scalar.zero Scalar.zero width height] ++
      sheet.shapes.flatMap (fun s => calls s.draw) ++
      (selected.bind sheet.get?).elim [] (fun s => calls s.drawMarks) ++
      preview.elim [] fun s => calls s.draw := by
  simp [drawScene]

lemma drawScene_eq_play :
    (drawScene sheet selected preview width height : m Unit) =
      play (calls (drawScene sheet selected preview width height)) := by
  simp only [calls_drawScene, play_append, play_flatMap, play_elim, ← Shape.draw_eq_play,
    ← Shape.drawMarks_eq_play]
  simp [drawScene]

end Atelier

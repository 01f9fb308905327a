/-
Drawings that a surface breaks off.

A drawing stops at the first call that the surface refuses, and that call is its error.  So what was
issued is a part of the whole drawing, cut off behind the refused call (`interrupted_record`).

Every call that can be refused stands between a `save` and its `restore`.  A drawing that is broken
off does not come to the `restore`: it leaves its frame open, and the next drawing begins with what
the frame has done to the axes (`frames_record`).
-/
import Atelier.Proofs.Drawing.Layers

namespace Atelier

variable {α : Type}

/-! ## The refused call -/

/-- The number of calls that a surface may refuse. -/
def refusable (cs : List (Call α)) : ℕ :=
  cs.countP Call.fallible

/-- How a drawing with the calls `cs` ends on a surface that grants `n` of the fallible calls and
refuses the next: with the calls that were issued, and the refused one. -/
inductive Interrupted (cs : List (Call α)) (n : ℕ) : List (Call α) × Option (Call α) → Prop where
  /-- There is no further fallible call. -/
  | spared (few : refusable cs ≤ n) : Interrupted cs n (cs, none)
  | refused {before after : List (Call α)} {c : Call α} (calls : cs = before ++ c :: after)
      (fallible : c.fallible = true) (granted : refusable before = n) :
      Interrupted cs n (before ++ [c], some c)

lemma refusable_cons (c : Call α) (cs : List (Call α)) :
    refusable (c :: cs) = refusable cs + if c.fallible then 1 else 0 :=
  List.countP_cons

/-- Each of the fallible calls stands somewhere among the calls. -/
lemma exists_split_of_lt {cs : List (Call α)} {n : ℕ} (h : n < refusable cs) :
    ∃ before c after, cs = before ++ c :: after ∧ c.fallible = true ∧ refusable before = n := by
  induction cs generalizing n with
  | nil => cases h
  | cons c cs ih =>
    rw [refusable_cons] at h
    cases hc : c.fallible with
    | false =>
      obtain ⟨before, d, after, rfl, hd, hbefore⟩ := ih (by simpa [hc] using h)
      exact ⟨c :: before, d, after, rfl, hd, by simp [refusable_cons, hc, hbefore]⟩
    | true =>
      cases n with
      | zero => exact ⟨[], c, cs, rfl, hc, rfl⟩
      | succ n =>
        obtain ⟨before, d, after, rfl, hd, hbefore⟩ := ih (by simpa [hc] using h)
        exact ⟨c :: before, d, after, rfl, hd, by simp [refusable_cons, hc, hbefore]⟩

/-- A call that cannot be refused is no business of the surface's count. -/
lemma run_call_of_not_fallible {c : Call α} (hc : c.fallible = false) (before : List (Call α))
    (failAt : Option ℕ) : (Surface.call c : Recording α Unit).run ⟨before, failAt⟩ =
      (.ok (), ⟨before ++ [c], failAt⟩) := by
  simp [run_call, Recorder.take, hc]

lemma run_call_granted {c : Call α} (hc : c.fallible = true) (before : List (Call α)) (n : ℕ) :
    (Surface.call c : Recording α Unit).run ⟨before, some (n + 2)⟩ =
      (.ok (), ⟨before ++ [c], some (n + 1)⟩) := by
  simp [run_call, Recorder.take, hc]

lemma run_call_refused {c : Call α} (hc : c.fallible = true) (before : List (Call α)) :
    (Surface.call c : Recording α Unit).run ⟨before, some 1⟩ =
      (.error c, ⟨before ++ [c], none⟩) := by
  simp [run_call, Recorder.take, hc]

/-- As long as no call is refused, the surface only counts the fallible ones down. -/
lemma run_play_of_le {cs : List (Call α)} (before : List (Call α)) {n : ℕ}
    (h : refusable cs ≤ n) :
    (play cs : Recording α Unit).run ⟨before, some (n + 1)⟩ =
      (.ok (), ⟨before ++ cs, some (n - refusable cs + 1)⟩) := by
  induction cs generalizing before n with
  | nil =>
    rw [List.append_nil]
    rfl
  | cons c cs ih =>
    rw [refusable_cons] at h ⊢
    cases hc : c.fallible with
    | false =>
      rw [hc] at h
      rw [play_cons, run_bind_of_run_eq_ok (run_call_of_not_fallible hc before _), ih _ h,
        List.append_assoc, List.singleton_append]
      rfl
    | true =>
      rw [hc, if_pos rfl] at h
      cases n with
      | zero => cases h
      | succ n =>
        have hcs : refusable cs ≤ n := Nat.le_of_succ_le_succ h
        rw [play_cons, run_bind_of_run_eq_ok (run_call_granted hc before n), ih _ hcs,
          List.append_assoc, List.singleton_append, if_pos rfl, Nat.add_sub_add_right]

/-- A surface that grants all the fallible calls gets the whole drawing. -/
lemma record_play_of_le {cs : List (Call α)} {n : ℕ} (h : refusable cs ≤ n) :
    record (some (n + 1)) (play cs) = (cs, none) := by
  rw [record, run_play_of_le [] h, List.nil_append]

/-- The refused call is the last one that is issued, and it is the error. -/
lemma record_play_of_split {before after : List (Call α)} {c : Call α} (hc : c.fallible = true) :
    record (some (refusable before + 1)) (play (before ++ c :: after)) =
      (before ++ [c], some c) := by
  have hbefore : (play before : Recording α Unit).run ⟨[], some (refusable before + 1)⟩ =
      (.ok (), ⟨before, some 1⟩) := by
    rw [run_play_of_le [] (Nat.le_refl _), Nat.sub_self, List.nil_append]
  rw [record, play_append, run_bind_of_run_eq_ok hbefore, play_cons,
    run_bind_of_run_eq_error (run_call_refused hc before)]

lemma interrupted_record_play (cs : List (Call α)) (n : ℕ) :
    Interrupted cs n (record (some (n + 1)) (play cs)) := by
  rcases Nat.lt_or_ge n (refusable cs) with hlt | hle
  · obtain ⟨before, c, after, hcs, hc, hbefore⟩ := exists_split_of_lt hlt
    have hrecord : record (some (n + 1)) (play cs) = (before ++ [c], some c) := by
      rw [hcs, ← hbefore, record_play_of_split hc]
    rw [hrecord]
    exact .refused hcs hc hbefore
  · rw [record_play_of_le hle]
    exact .spared hle

/-! ## Pictures -/

/-- What can be drawn: a shape, one of the marks of a selected shape, or a scene. -/
inductive Picture (α : Type) where
  | shape (s : Shape α)
  | selection (s : Shape α)
  | handles (s : Shape α)
  | rotationHandle (s : Shape α)
  | scene (sheet : Sheet α) (selected : Option ShapeId) (preview : Option (Shape α))
      (width height : α)

namespace Picture

variable [Scalar α] {m : Type → Type} [Monad m] [Surface α m]

/-- Draws a picture. -/
def draw : Picture α → m Unit
  | shape s => s.draw
  | selection s => s.drawSelection
  | handles s => s.drawHandles
  | rotationHandle s => s.drawRotationHandle
  | scene sheet selected preview width height => drawScene sheet selected preview width height

lemma draw_eq_play [LawfulMonad m] (picture : Picture α) :
    (picture.draw : m Unit) = play (calls picture.draw) := by
  cases picture with
  | shape s => exact s.draw_eq_play
  | selection s => simp [draw, Shape.drawSelection, Shape.enterFrame]
  | handles s => simp [draw, Shape.drawHandles, Anchor.all]
  | rotationHandle s => simp [draw, Shape.drawRotationHandle]
  | scene sheet selected preview width height => exact drawScene_eq_play ..

end Picture

section

variable [Scalar α]

/-- A surface that refuses nothing gets the whole picture.  One that refuses a call gets the
calls up to that one, and no more, and the refused call is the error. -/
theorem interrupted_record (picture : Picture α) (n : ℕ) :
    (record none picture.draw).2 = none ∧
      Interrupted (record none picture.draw).1 n (record (some (n + 1)) picture.draw) := by
  rw [picture.draw_eq_play, record_play]
  exact ⟨rfl, interrupted_record_play _ n⟩

end

example :
    let picture : Picture Float :=
      .shape ⟨.ofNat 1, .ellipse, 10, 20, 30, 40, 0, .descending, .default⟩
    (record (some 3) picture.draw).1.map Call.name =
      ["save", "translate", "rotate", "fill_style", "stroke_style", "line_width", "begin_path",
        "ellipse"] := by
  decide +kernel

/-! ## The open frame -/

/-- The number of frames that are opened. -/
def saves (cs : List (Call α)) : ℕ :=
  cs.countP (· matches .save)

/-- The number of frames that are closed. -/
def restores (cs : List (Call α)) : ℕ :=
  cs.countP (· matches .restore)

lemma saves_append (cs ds : List (Call α)) : saves (cs ++ ds) = saves cs + saves ds :=
  List.countP_append

lemma restores_append (cs ds : List (Call α)) : restores (cs ++ ds) = restores cs + restores ds :=
  List.countP_append

lemma saves_eq (cs : List (Call α)) : (saves cs : ℤ) = restores cs + openFrames cs := by
  induction cs with
  | nil => rfl
  | cons c cs ih =>
    have hfirst : (saves [c] : ℤ) = restores [c] + openFrames [c] := by cases c <;> rfl
    rw [← List.singleton_append, saves_append, restores_append, openFrames_append]
    omega

/-- Calls that close their frames, and of which only those inside of a frame can be refused. -/
structure Guarded (cs : List (Call α)) : Prop where
  closed : openFrames cs = 0
  framed : InFrame Call.fallible cs

lemma Framed.guarded {cs : List (Call α)} (hcs : Framed cs) : Guarded cs :=
  ⟨hcs.closed, hcs.inFrame fun _ hc => Call.opens_of_fallible hc⟩

namespace Guarded

variable {cs ds : List (Call α)}

lemma nil : Guarded ([] : List (Call α)) :=
  ⟨rfl, .of_none (by simp)⟩

lemma append (hcs : Guarded cs) (hds : Guarded ds) : Guarded (cs ++ ds) where
  closed := by rw [openFrames_append, hcs.closed, hds.closed, Int.add_zero]
  framed := hcs.framed.append hcs.closed hds.framed

lemma flatMap {β : Type} {l : List β} {f : β → List (Call α)} (h : ∀ b, Guarded (f b)) :
    Guarded (l.flatMap f) :=
  flatMap_induction nil (fun _ _ => append) h l

lemma elim {β : Type} {o : Option β} {f : β → List (Call α)} (h : ∀ b, Guarded (f b)) :
    Guarded (o.elim [] f) :=
  elim_induction nil h o

lemma saves_eq_restores (hcs : Guarded cs) : saves cs = restores cs := by
  have hsaves := saves_eq cs
  rw [hcs.closed] at hsaves
  omega

/-- Calls that are broken off leave the frame of the refused call open. -/
lemma saves_of_interrupted (hcs : Guarded cs) {n : ℕ} {outcome : List (Call α) × Option (Call α)}
    (h : Interrupted cs n outcome) :
    saves outcome.1 = restores outcome.1 + if outcome.2.isSome then 1 else 0 := by
  cases h with
  | spared few => exact hcs.saves_eq_restores
  | @refused before after c hsplit fallible granted =>
    have hopen : openFrames (before ++ [c]) = 1 := by
      simp [hcs.framed before c after hsplit fallible, Call.opens_of_fallible fallible]
    have hsaves := saves_eq (before ++ [c])
    rw [hopen] at hsaves
    show saves (before ++ [c]) = restores (before ++ [c]) + 1
    omega

end Guarded

section

variable [Scalar α]

lemma guarded_drawScene (sheet : Sheet α) (selected : Option ShapeId)
    (preview : Option (Shape α)) (width height : α) :
    Guarded (calls (drawScene sheet selected preview width height)) := by
  rw [calls_drawScene]
  refine .append (.append (.append ?background ?shapes) ?marks) ?dragged
  case background => exact ⟨rfl, .of_none (by simp [Call.fallible])⟩
  case shapes => exact .flatMap fun s => s.framed_draw.guarded
  case marks =>
    refine .elim fun s => ?_
    rw [s.calls_drawMarks]
    exact (s.framed_drawSelection.guarded.append s.framed_drawHandles.guarded).append
      s.framed_drawRotationHandle.guarded
  case dragged => exact .elim fun s => s.framed_draw.guarded

lemma Picture.guarded (picture : Picture α) : Guarded (calls picture.draw) := by
  cases picture with
  | shape s => exact s.framed_draw.guarded
  | selection s => exact s.framed_drawSelection.guarded
  | handles s => exact s.framed_drawHandles.guarded
  | rotationHandle s => exact s.framed_drawRotationHandle.guarded
  | scene sheet selected preview width height => exact guarded_drawScene ..

/-- A picture that is drawn to its end closes every frame that it opens.  One that is broken off
leaves exactly one frame open. -/
theorem frames_record (picture : Picture α) :
    saves (record none picture.draw).1 = restores (record none picture.draw).1 ∧
      ∀ n, saves (record (some (n + 1)) picture.draw).1 =
        restores (record (some (n + 1)) picture.draw).1 +
          if (record (some (n + 1)) picture.draw).2.isSome then 1 else 0 := by
  rw [picture.draw_eq_play, record_play]
  exact ⟨picture.guarded.saves_eq_restores, fun n =>
    picture.guarded.saves_of_interrupted (interrupted_record_play _ n)⟩

/-- An ellipse on a surface that moves the origin into the middle of the ellipse and then refuses to
turn the axes. -/
theorem not_always_balanced :
    ¬ ∀ (picture : Picture Float) (n : ℕ),
      saves (record (some (n + 1)) picture.draw).1 =
        restores (record (some (n + 1)) picture.draw).1 := by
  intro h
  have hellipse := h (.shape ⟨.ofNat 1, .ellipse, 10, 20, 30, 40, 0, .descending, .default⟩) 1
  revert hellipse
  decide +kernel

end

end Atelier

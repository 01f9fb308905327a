/-
Numbers, lists and records as JSON values: they are legible, and read back as what they were.
A field of a record is read as its value.
-/
import Atelier.Json.Decode
import Atelier.Proofs.Json.Reading

namespace Atelier

lemma mapM_map_eq_some {α β : Type} {f : β → Option α} {g : α → β} {l : List α}
    (h : ∀ a ∈ l, f (g a) = some a) : (l.map g).mapM f = some l := by
  induction l with
  | nil => rfl
  | cons a l ih =>
    have ha : f (g a) = some a := h a (by simp)
    have hl : (l.map g).mapM f = some l := ih fun b hb => h b (by simp [hb])
    rw [List.map_cons, List.mapM_cons, ha, hl]
    rfl

namespace Json

variable {α : Type} {room : Nat}

/-- The infinities and NaN are written as `null`, which is legible too. -/
lemma legible_ofFloat (x : Float) : Legible room (.ofFloat x) := by
  unfold ofFloat
  split
  · rename_i hfinite
    exact .num hfinite
  · exact .null

/-- The infinities and NaN do not read back. -/
lemma float?_ofFloat_eq (x : Float) :
    float? (.ofFloat x) = if x.isFinite then some x else none := by
  unfold ofFloat
  split <;> rfl

lemma float?_ofFloat {x : Float} (h : x.isFinite = true) : float? (.ofFloat x) = some x := by
  rw [float?_ofFloat_eq, if_pos h]

lemma legible_map {write : α → Json} (h : ∀ a, Legible room (write a)) (items : List α) :
    Legible (room + 1) (.arr (items.map write)) := by
  refine .arr fun v hv => ?_
  obtain ⟨a, -, rfl⟩ := List.mem_map.1 hv
  exact h a

lemma list?_map {read : Json → Option α} {write : α → Json} {items : List α}
    (h : ∀ a ∈ items, read (write a) = some a) :
    list? read (.arr (items.map write)) = some items :=
  mapM_map_eq_some h

/-- A list is read back if each of its items is, and not at all if one is not. -/
lemma list?_map_eq_ite {read : Json → Option α} {write : α → Json} {p : α → Prop}
    [DecidablePred p] (h : ∀ a, read (write a) = if p a then some a else none) (items : List α) :
    list? read (.arr (items.map write)) = if ∀ a ∈ items, p a then some items else none := by
  induction items with
  | nil => simp [list?]
  | cons a items ih =>
    rw [list?] at ih ⊢
    simp only [List.map_cons, List.mapM_cons, h a, ih, List.forall_mem_cons]
    by_cases ha : p a
    · simp only [ha, true_and, if_true]
      split <;> rfl
    · simp only [ha, false_and, if_false]
      rfl

lemma record?_obj {names : List String} {members : List (String × Json)}
    (h : eachOnce names members = true) : record? names (.obj members) = some (members.lookup ·) :=
  if_pos h

namespace Fields

variable {fields : Fields} {name : String} {v : Json} {read : Json → Option α}

lemma required_of_eq (h : fields name = some v) : fields.required name read = read v := by
  rw [required, h, Option.bind_some]

lemma withDefault_of_eq (h : fields name = some v) (default : α) :
    fields.withDefault name default read = read v := by
  rw [withDefault, h]

end Fields

end Json

end Atelier

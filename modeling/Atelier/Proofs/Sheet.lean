/-
Addressing the shapes of a sheet.

An identifier addresses the lowest shape that has it.  The lemmas here say what changing or
removing that shape does to the list of shapes, and what looking it up gives afterwards.  A
change has to keep the identifier of the shape; otherwise a second change could reach another
one.
-/
import Mathlib.Tactic.Common
import Atelier.Shape.Sheet

namespace Atelier

variable {α : Type}

/-- A change of shapes that keeps their identifiers. -/
def KeepsId (f : Shape α → Shape α) : Prop :=
  ∀ s, (f s).id = s.id

namespace Sheet

variable {sheet : Sheet α} {id : ShapeId} {s : Shape α} {f g : Shape α → Shape α}

lemma ext_shapes {sheet sheet' : Sheet α} (h : sheet.shapes = sheet'.shapes) :
    sheet = sheet' := by
  cases sheet
  cases sheet'
  rw [Sheet.mk.injEq]
  exact h

/-! ## The addressed shape -/

lemma isSome_get?_iff : (sheet.get? id).isSome ↔ id ∈ sheet.shapes.map Shape.id := by
  simp [get?, List.find?_isSome]

lemma id_of_get? (h : sheet.get? id = some s) : s.id = id := by
  simpa using List.find?_some h

/-- The shape that an identifier addresses stands above shapes with other identifiers. -/
lemma split_of_get? (h : sheet.get? id = some s) :
    ∃ below above, sheet.shapes = below ++ s :: above ∧ ∀ t ∈ below, t.id ≠ id := by
  obtain ⟨-, below, above, hshapes, hbelow⟩ := List.find?_eq_some_iff_append.1 h
  exact ⟨below, above, hshapes, fun t ht => by simpa using hbelow t ht⟩

lemma modifyFirst_append {below above : List (Shape α)} (hs : s.id = id)
    (hbelow : ∀ t ∈ below, t.id ≠ id) :
    modifyFirst id f (below ++ s :: above) = below ++ f s :: above := by
  induction below with
  | nil => simp [modifyFirst, hs]
  | cons t below ih =>
    have ht : t.id ≠ id := hbelow t (by simp)
    have hrest : ∀ u ∈ below, u.id ≠ id := fun u hu => hbelow u (by simp [hu])
    simp [modifyFirst, ht, ih hrest]

/-- Changing the addressed shape changes one place of the list and nothing else. -/
lemma split_modify (h : sheet.get? id = some s) :
    ∃ below above, sheet.shapes = below ++ s :: above ∧ (∀ t ∈ below, t.id ≠ id) ∧
      ∀ f, (sheet.modify id f).shapes = below ++ f s :: above := by
  obtain ⟨below, above, hshapes, hbelow⟩ := split_of_get? h
  refine ⟨below, above, hshapes, hbelow, fun f => ?_⟩
  rw [modify, hshapes]
  exact modifyFirst_append (id_of_get? h) hbelow

/-! ## Changing it -/

lemma modify_of_get?_eq_none (h : sheet.get? id = none) : sheet.modify id f = sheet := by
  obtain ⟨shapes⟩ := sheet
  have hne : ∀ t ∈ shapes, t.id ≠ id := by simpa [get?] using h
  suffices modifyFirst id f shapes = shapes by rw [modify, this]
  clear h
  induction shapes with
  | nil => rfl
  | cons t rest ih =>
    have ht : t.id ≠ id := hne t (by simp)
    rw [modifyFirst, if_neg ht, ih fun u hu => hne u (by simp [hu])]

lemma modify_eq_self (h : sheet.get? id = some s) (hf : f s = s) : sheet.modify id f = sheet := by
  obtain ⟨below, above, hshapes, -, hmodify⟩ := split_modify h
  apply ext_shapes
  rw [hmodify, hf, ← hshapes]

lemma modify_modify (hf : KeepsId f) :
    (sheet.modify id f).modify id g = sheet.modify id (g ∘ f) := by
  obtain ⟨shapes⟩ := sheet
  simp only [modify, Sheet.mk.injEq]
  induction shapes with
  | nil => rfl
  | cons t rest ih =>
    by_cases ht : t.id = id
    · have hft : (f t).id = id := (hf t).trans ht
      simp [modifyFirst, ht, hft]
    · simp [modifyFirst, ht, ih]

lemma get?_modify (hf : KeepsId f) : (sheet.modify id f).get? id = (sheet.get? id).map f := by
  obtain ⟨shapes⟩ := sheet
  simp only [modify, get?]
  induction shapes with
  | nil => rfl
  | cons t rest ih =>
    by_cases ht : t.id = id
    · have hft : (f t).id = id := (hf t).trans ht
      simp [modifyFirst, ht, hft]
    · simp [modifyFirst, ht, ih]

/-- A change adds and removes no identifier. -/
lemma map_id_modify (hf : KeepsId f) :
    (sheet.modify id f).shapes.map Shape.id = sheet.shapes.map Shape.id := by
  obtain ⟨shapes⟩ := sheet
  simp only [modify]
  induction shapes with
  | nil => rfl
  | cons t rest ih =>
    by_cases ht : t.id = id
    · simp [modifyFirst, ht, hf t]
    · simp [modifyFirst, ht, ih]

lemma isSome_get?_modify (hf : KeepsId f) {other : ShapeId} :
    ((sheet.modify id f).get? other).isSome ↔ (sheet.get? other).isSome := by
  rw [isSome_get?_iff, map_id_modify hf, isSome_get?_iff]

/-- A change that keeps a property of shapes keeps it for all shapes of the sheet. -/
lemma forall_mem_modify {P : Shape α → Prop} (h : ∀ t ∈ sheet.shapes, P t)
    (hf : ∀ t, P t → P (f t)) : ∀ t ∈ (sheet.modify id f).shapes, P t := by
  cases hs : sheet.get? id with
  | none => rwa [modify_of_get?_eq_none hs]
  | some s =>
    obtain ⟨below, above, hshapes, -, hmodify⟩ := split_modify hs
    rw [hshapes] at h
    rw [hmodify]
    intro t ht
    rcases List.mem_append.1 ht with hbelow | ht
    · exact h t (by simp [hbelow])
    · rcases List.mem_cons.1 ht with rfl | habove
      · exact hf s (h s (by simp))
      · exact h t (by simp [habove])

/-! ## Removing it -/

lemma mem_of_mem_remove {t : Shape α} (h : t ∈ (sheet.remove id).shapes) : t ∈ sheet.shapes :=
  List.mem_of_mem_eraseP h

/-- Removing shapes brings none back. -/
lemma get?_remove_eq_none {other : ShapeId} (h : sheet.get? id = none) :
    (sheet.remove other).get? id = none := by
  have hne : ∀ t ∈ sheet.shapes, t.id ≠ id := by simpa [get?] using h
  simpa [get?] using fun t ht => hne t (mem_of_mem_remove ht)

/-! ## Its place -/

/-- The place of the shape that an identifier addresses, between the shapes below and above. -/
structure Place (sheet : Sheet α) (id : ShapeId) (below : List (Shape α)) (s : Shape α)
    (above : List (Shape α)) : Prop where
  shapes : sheet.shapes = below ++ s :: above
  addressed : s.id = id
  lowest : ∀ t ∈ below, t.id ≠ id

lemma exists_place (h : sheet.get? id = some s) : ∃ below above, sheet.Place id below s above := by
  obtain ⟨below, above, hshapes, hbelow⟩ := split_of_get? h
  exact ⟨below, above, hshapes, id_of_get? h, hbelow⟩

namespace Place

variable {below above : List (Shape α)}

lemma get?_eq (h : sheet.Place id below s above) : sheet.get? id = some s := by
  refine List.find?_eq_some_iff_append.2 ⟨decide_eq_true h.addressed, below, above, h.shapes, ?_⟩
  intro t ht
  simpa using h.lowest t ht

lemma below_eq (h : sheet.Place id below s above) :
    below = sheet.shapes.takeWhile (·.id ≠ id) := by
  rw [h.shapes, List.takeWhile_append_of_pos (by simpa using h.lowest),
    List.takeWhile_cons_of_neg (by simpa using h.addressed), List.append_nil]

/-- An identifier addresses one place only. -/
lemma unique {lower upper : List (Shape α)} {t : Shape α} (h : sheet.Place id lower t upper)
    (h' : sheet.Place id below s above) : lower = below ∧ t = s ∧ upper = above := by
  obtain rfl : lower = below := h.below_eq.trans h'.below_eq.symm
  have hshapes : lower ++ t :: upper = lower ++ s :: above := h.shapes.symm.trans h'.shapes
  obtain ⟨rfl, rfl⟩ := List.cons.inj (List.append_cancel_left hshapes)
  exact ⟨rfl, rfl, rfl⟩

lemma modify (h : sheet.Place id below s above) (f : Shape α → Shape α) :
    (sheet.modify id f).shapes = below ++ f s :: above := by
  rw [Sheet.modify, h.shapes]
  exact modifyFirst_append h.addressed h.lowest

/-- Removing the shape closes its place and changes nothing else. -/
lemma remove (h : sheet.Place id below s above) :
    (sheet.remove id).shapes = below ++ above := by
  have hnone : ∀ t ∈ below, ¬ decide (t.id = id) = true :=
    fun t ht => by simpa using h.lowest t ht
  rw [Sheet.remove, h.shapes, List.eraseP_append_right _ hnone,
    List.eraseP_cons_of_pos (by simpa using h.addressed)]

end Place

end Sheet

end Atelier

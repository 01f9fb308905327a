/-
The documents of a language definition are legible.

Each record stands a fixed number of containers deep, `room` more of which are allowed
everywhere: a document has six inside each other and a reader accepts many more.
-/
import Atelier.Language.Documents
import Atelier.Proofs.Json.Records

namespace Atelier

open Json (Legible)

variable {room : Nat}

/-! ## Fields -/

namespace Json

lemma legible_ofBound (bound : Option UInt32) : Legible room (.ofBound bound) := by
  cases bound with
  | none => exact .null
  | some n => exact .num (Nat.lt_trans n.toNat_lt (by decide))

lemma legible_ofStrings (texts : List String) : Legible (room + 1) (.ofStrings texts) :=
  legible_map (fun s => .str s) texts

lemma eq_of_mem_unlessEmpty {α : Type} {name : String} {items : List α} {v : Json}
    {member : String × Json} (h : member ∈ unlessEmpty name items v) : member = (name, v) := by
  unfold unlessEmpty at h
  split at h
  · cases h
  · exact List.mem_singleton.1 h

end Json

lemma Table.legible_toJson {α : Type} {write : α → Json} (h : ∀ a, Legible room (write a))
    (t : Table α) : Legible (room + 1) (t.toJson write) := by
  refine .obj fun member hmember => ?_
  obtain ⟨⟨name, a⟩, -, rfl⟩ := List.mem_map.1 hmember
  exact h a

/-! ## Records -/

lemma Property.legible_toJson (p : Property) : Legible (room + 2) p.toJson := by
  refine .obj fun member hmember => ?_
  rw [List.mem_append, List.mem_append] at hmember
  rcases hmember with (hmember | hmember) | hmember
  · simp only [List.mem_cons, List.not_mem_nil, or_false] at hmember
    rcases hmember with rfl | rfl | rfl <;> exact .str _
  · rw [Json.eq_of_mem_unlessEmpty hmember]
    exact Json.legible_ofStrings _
  · rw [Json.eq_of_mem_unlessEmpty hmember]
    exact .str _

lemma Property.legible_listJson (ps : List Property) : Legible (room + 3) (listJson ps) :=
  Json.legible_map (fun p => p.legible_toJson) ps

lemma Label.legible_toJson (l : Label) : Legible (room + 1) l.toJson := by
  refine .obj fun member hmember => ?_
  simp only [List.mem_cons, List.not_mem_nil, or_false] at hmember
  rcases hmember with rfl | rfl <;> exact .str _

lemma Style.legible_toJson (s : Style) : Legible (room + 1) s.toJson := by
  refine .obj fun member hmember => ?_
  simp only [List.mem_cons, List.not_mem_nil, or_false] at hmember
  rcases hmember with rfl | rfl | rfl <;> exact .str _

namespace Marking

lemma legible_of_mem_listFields {m : Marking} {member : String × Json}
    (h : member ∈ m.listFields) : Legible (room + 2) member.2 := by
  simp only [listFields, List.mem_cons, List.not_mem_nil, or_false] at h
  rcases h with rfl | rfl
  · exact Json.legible_map (fun l => l.legible_toJson) _
  · exact Json.legible_map (fun s => s.legible_toJson) _

lemma legible_toJson (m : Marking) : Legible (room + 3) m.toJson := by
  refine .obj fun member hmember => ?_
  rcases List.mem_cons.1 hmember with rfl | hmember
  · exact .str _
  · exact legible_of_mem_listFields hmember

end Marking

lemma legible_elementDeclarationJson (properties : List Property) :
    Legible (room + 4) (elementDeclarationJson properties) := by
  refine .obj fun member hmember => ?_
  obtain rfl := List.mem_singleton.1 hmember
  exact Property.legible_listJson properties

namespace Declaration

lemma legible_of_mem_boundField {name : String} {bound : Option UInt32}
    {member : String × Json} (h : member ∈ boundField name bound) : Legible room member.2 := by
  cases bound with
  | none => cases h
  | some n =>
    obtain rfl := List.mem_singleton.1 h
    exact Json.legible_ofBound (some n)

lemma legible_toJson (d : Declaration) : Legible (room + 4) d.toJson := by
  refine .obj fun member hmember => ?_
  rw [List.mem_append, List.mem_append] at hmember
  rcases hmember with (hmin | hmax) | hmember
  · exact legible_of_mem_boundField hmin
  · exact legible_of_mem_boundField hmax
  · simp only [List.mem_cons, List.not_mem_nil, or_false] at hmember
    rcases hmember with rfl | rfl | rfl
    · exact .str _
    · exact .str _
    · exact Property.legible_listJson _

end Declaration

lemma ElementRule.legible_toJson (rule : ElementRule) : Legible (room + 3) rule.toJson := by
  refine .obj fun member hmember => ?_
  rcases List.mem_append.1 hmember with hmember | hmember
  · simp only [List.mem_cons, List.not_mem_nil, or_false] at hmember
    rcases hmember with rfl | rfl | rfl
    · exact Json.legible_ofFloat _
    · exact Json.legible_ofFloat _
    · exact .str _
  · exact Marking.legible_of_mem_listFields hmember

namespace Restriction

lemma legible_of_mem_fields {r : Restriction} {member : String × Json} (h : member ∈ r.fields) :
    Legible (room + 1) member.2 := by
  cases r with
  | uniqueName elements =>
    obtain rfl := List.mem_singleton.1 h
    exact Json.legible_ofStrings elements
  | parentChild parent child =>
    simp only [fields, List.mem_cons, List.not_mem_nil, or_false] at h
    rcases h with rfl | rfl <;> exact .str _
  | quantityElement element min max =>
    simp only [fields, List.mem_cons, List.not_mem_nil, or_false] at h
    rcases h with rfl | rfl | rfl
    · exact .str _
    · exact Json.legible_ofBound min
    · exact Json.legible_ofBound max

lemma legible_toJson (r : Restriction) : Legible (room + 2) r.toJson := by
  refine .obj fun member hmember => ?_
  rcases List.mem_cons.1 hmember with rfl | hmember
  · exact .str _
  · exact legible_of_mem_fields hmember

end Restriction

/-! ## Documents -/

lemma AbstractSyntax.legible_toJson (a : AbstractSyntax) : Legible (room + 6) a.toJson := by
  refine .obj fun member hmember => ?_
  simp only [List.mem_cons, List.not_mem_nil, or_false] at hmember
  rcases hmember with rfl | rfl | rfl
  · exact Table.legible_toJson legible_elementDeclarationJson a.elements
  · exact Table.legible_toJson (fun d => d.legible_toJson) a.relationships
  · exact Json.legible_map (fun r => r.legible_toJson) a.restrictions

lemma ConcreteSyntax.legible_toJson (c : ConcreteSyntax) : Legible (room + 5) c.toJson := by
  refine .obj fun member hmember => ?_
  simp only [List.mem_cons, List.not_mem_nil, or_false] at hmember
  rcases hmember with rfl | rfl
  · exact Table.legible_toJson (fun rule => rule.legible_toJson) c.elements
  · exact Table.legible_toJson (fun m => m.legible_toJson) c.relationships

end Atelier

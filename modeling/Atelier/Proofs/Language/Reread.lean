/-
A language definition that is written and read again.

The sizes of its types are the only doubles of a definition.  So the abstract syntax is read again
as it is, and a definition with its sizes read again (`Model.reread`).  Whether it is read back is
decided by the sizes (`Model.reread_eq_iff`).
-/
import Atelier.Language.Compile
import Atelier.Proofs.Json.Reread
import Atelier.Proofs.Table

namespace Atelier

/-! ## Fields and tables -/

namespace Json

@[simp] lemma reread_ofBound (bound : Option UInt32) :
    (ofBound bound).reread = ofBound bound := by
  cases bound <;> rfl

lemma map_reread_unlessEmpty {α : Type} (name : String) (items : List α) (v : Json) :
    ((unlessEmpty name items v).map fun member => (member.1, member.2.reread)) =
      unlessEmpty name items v.reread := by
  unfold unlessEmpty
  split <;> rfl

end Json

@[simp] lemma Table.reread_toJson {α : Type} (write : α → Json) (t : Table α) :
    (t.toJson write).reread = t.toJson fun a => (write a).reread := by
  rw [toJson, toJson, Json.reread_obj, List.map_map]
  rfl

/-! ## Records without doubles -/

@[simp] lemma Property.reread_toJson (p : Property) : p.toJson.reread = p.toJson := by
  rw [toJson, Json.reread_obj, List.map_append, List.map_append, Json.map_reread_unlessEmpty,
    Json.map_reread_unlessEmpty, Json.readsBack_ofStrings]
  rfl

@[simp] lemma Property.reread_listJson (ps : List Property) :
    (listJson ps).reread = listJson ps := by
  simp [listJson]

@[simp] lemma Label.reread_toJson (l : Label) : l.toJson.reread = l.toJson := rfl

@[simp] lemma Style.reread_toJson (s : Style) : s.toJson.reread = s.toJson := rfl

lemma Marking.map_reread_listFields (m : Marking) :
    (m.listFields.map fun member => (member.1, member.2.reread)) = m.listFields := by
  simp [listFields]

@[simp] lemma Marking.reread_toJson (m : Marking) : m.toJson.reread = m.toJson := by
  rw [toJson, Json.reread_obj, List.map_cons, map_reread_listFields]
  rfl

@[simp] lemma reread_elementDeclarationJson (properties : List Property) :
    (elementDeclarationJson properties).reread = elementDeclarationJson properties := by
  simp [elementDeclarationJson, Json.reread_obj]

@[simp] lemma Declaration.reread_toJson (d : Declaration) : d.toJson.reread = d.toJson := by
  have hbound (name : String) (bound : Option UInt32) :
      ((boundField name bound).map fun member => (member.1, member.2.reread)) =
        boundField name bound := by
    cases bound <;> rfl
  rw [toJson, Json.reread_obj, List.map_append, List.map_append, hbound, hbound, List.map_cons,
    List.map_cons, List.map_cons, Property.reread_listJson]
  rfl

@[simp] lemma Relationship.reread_toJson (r : Relationship) : r.toJson.reread = r.toJson := by
  rw [toJson, Json.reread_obj, List.map_append, Marking.map_reread_listFields]
  simp only [List.map_cons, List.map_nil, Json.reread_ofBound, Property.reread_listJson]
  rfl

@[simp] lemma Restriction.reread_toJson (r : Restriction) : r.toJson.reread = r.toJson := by
  cases r with
  | uniqueName elements =>
    simp only [toJson, fields, Json.reread_obj, List.map_cons, List.map_nil]
    rw [Json.readsBack_ofStrings]
    rfl
  | parentChild parent child => rfl
  | quantityElement element min max =>
    simp only [toJson, fields, Json.reread_obj, List.map_cons, List.map_nil, Json.reread_ofBound]
    rfl

/-- An abstract syntax is read again as it is. -/
lemma AbstractSyntax.reread_toJson (a : AbstractSyntax) : a.toJson.reread = a.toJson := by
  simp [toJson, Json.reread_obj]

/-! ## Sizes -/

namespace ElementRule

/-- The rule with its sizes read again. -/
def reread (rule : ElementRule) : ElementRule :=
  { rule with
    width := Json.Number.rereadFloat rule.width
    height := Json.Number.rereadFloat rule.height }

@[simp] lemma reread_toJson (rule : ElementRule) : rule.toJson.reread = rule.reread.toJson := by
  rw [toJson, Json.reread_obj, List.map_append, Marking.map_reread_listFields]
  simp only [List.map_cons, List.map_nil, Json.reread_ofFloat]
  rfl

end ElementRule

namespace ConcreteSyntax

/-- The concrete syntax with its sizes read again. -/
def reread (c : ConcreteSyntax) : ConcreteSyntax :=
  { c with elements := c.elements.map ElementRule.reread }

lemma reread_toJson (c : ConcreteSyntax) : c.toJson.reread = c.reread.toJson := by
  simp [toJson, Json.reread_obj, reread, Table.map, Table.toJson]

lemma isFinite_reread {c : ConcreteSyntax}
    (h : ∀ entry ∈ c.elements.entries, entry.2.width.isFinite ∧ entry.2.height.isFinite) :
    ∀ entry ∈ c.reread.elements.entries, entry.2.width.isFinite ∧ entry.2.height.isFinite := by
  intro entry' hentry'
  obtain ⟨entry, hentry, rfl⟩ := List.mem_map.1 hentry'
  obtain ⟨hwidth, hheight⟩ := h entry hentry
  exact ⟨(Json.Number.isFinite_rereadFloat _).trans hwidth,
    (Json.Number.isFinite_rereadFloat _).trans hheight⟩

end ConcreteSyntax

namespace Element

/-- The type of elements with its sizes read again. -/
def reread (e : Element) : Element :=
  { e with
    width := Json.Number.rereadFloat e.width
    height := Json.Number.rereadFloat e.height }

/-- The sizes of a type are read from their texts as they are. -/
@[mk_iff]
structure ReadsBack (e : Element) : Prop where
  width : (Json.ofFloat e.width).ReadsBack
  height : (Json.ofFloat e.height).ReadsBack

@[simp] lemma reread_toJson (e : Element) : e.toJson.reread = e.reread.toJson := by
  rw [toJson, Json.reread_obj, List.map_append, Marking.map_reread_listFields]
  simp only [List.map_cons, List.map_nil, Json.reread_ofFloat, Property.reread_listJson]
  rfl

lemma reread_eq_iff {e : Element} : e.reread = e ↔ e.ReadsBack := by
  obtain ⟨name, width, height, properties, marking⟩ := e
  simp [reread, readsBack_iff, Json.readsBack_ofFloat_iff]

instance : DecidablePred ReadsBack := fun _ => decidable_of_iff _ reread_eq_iff

end Element

namespace Model

variable {m : Model}

/-- The definition with all its sizes read again. -/
def reread (m : Model) : Model :=
  { m with elements := m.elements.map Element.reread }

/-- All sizes of a definition are read from their texts as they are. -/
def ReadsBack (m : Model) : Prop :=
  ∀ e ∈ m.elements, e.ReadsBack

instance : DecidablePred ReadsBack := fun m =>
  inferInstanceAs (Decidable (∀ e ∈ m.elements, e.ReadsBack))

lemma reread_toJson (m : Model) : m.toJson.reread = m.reread.toJson := by
  simp [toJson, Json.reread_obj, reread]

/-- Nothing but the sizes of a definition is altered by writing and reading it. -/
lemma reread_eq_iff : m.reread = m ↔ m.ReadsBack := by
  obtain ⟨elements, relationships, restrictions⟩ := m
  have hmap : elements.map Element.reread = elements ↔ ∀ e ∈ elements, e.reread = e := by
    conv_lhs => rhs; rw [← List.map_id elements]
    exact List.map_inj_left
  rw [reread, mk.injEq, hmap]
  simp only [Element.reread_eq_iff, ReadsBack, and_true]

/-- What a definition contains is read again as it is. -/
lemma abstractSyntax_reread (m : Model) : m.reread.abstractSyntax = m.abstractSyntax := by
  rw [abstractSyntax, abstractSyntax, reread, List.map_map]
  rfl

lemma concreteSyntax_reread (m : Model) : m.reread.concreteSyntax = m.concreteSyntax.reread := by
  have hrules : (m.reread.elements.map fun e => (e.name, e.rule)) =
      (m.elements.map fun e => (e.name, e.rule)).map
        fun entry => (entry.1, entry.2.reread) := by
    rw [reread, List.map_map, List.map_map]
    rfl
  rw [concreteSyntax, hrules, Table.ofList_map_value]
  rfl

/-- No size decides whether a definition has a textual form. -/
lemma fault?_reread (m : Model) : m.reread.fault? = m.fault? := by
  have hnames : m.reread.elements.map (·.name) = m.elements.map (·.name) := by
    rw [reread, List.map_map]
    rfl
  rw [fault?, fault?, hnames, abstractSyntax_reread]
  rfl

/-- Two types of elements and one of relationships, with every kind of restriction. -/
def abFlow : Model where
  elements := [
    { name := "A", width := 120.25, height := 1e-7
      properties := [⟨"Name", "String", "", [], "shown on the shape"⟩]
      marking := ⟨"Name", [⟨"Name", "center"⟩], [⟨"Kind", "abstract", "fill:#eeeeee"⟩]⟩ },
    { name := "B", width := Element.defaultWidth, height := Element.defaultHeight
      properties := [], marking := .none }]
  relationships := [
    { name := "A_B", min := none, max := some 3, source := "A", target := "B"
      properties := [⟨"Type", "Select", "Sync", ["Sync", "Async"], ""⟩]
      marking := ⟨"Type", [], []⟩ }]
  restrictions := [.uniqueName ["A", "B"], .parentChild "A" "B",
    .quantityElement "B" (some 0) none]

lemma readsBack_abFlow : abFlow.ReadsBack := by decide +kernel

end Model

end Atelier

/-
The JSON text of a language definition.

A definition is written as one record, with every field of its types and relationships and with a
bound that is missing as `null`.  It is read with its sizes read again if all of them are finite: a
size that is not is written as `null`, and then nothing is read (`Model.parse?_text`).
-/
import Atelier.Proofs.Language.Records
import Atelier.Proofs.Language.Reread

namespace Atelier

open Json (Legible)

variable {room : Nat}

/-! ## The text is legible -/

lemma Element.legible_toJson (e : Element) : Legible (room + 4) e.toJson := by
  refine .obj fun member hmember => ?_
  rcases List.mem_append.1 hmember with hmember | hmember
  · simp only [List.mem_cons, List.not_mem_nil, or_false] at hmember
    rcases hmember with rfl | rfl | rfl | rfl | rfl
    · exact .str _
    · exact Json.legible_ofFloat _
    · exact Json.legible_ofFloat _
    · exact .str _
    · exact Property.legible_listJson _
  · exact Marking.legible_of_mem_listFields hmember

lemma Relationship.legible_toJson (r : Relationship) : Legible (room + 4) r.toJson := by
  refine .obj fun member hmember => ?_
  rcases List.mem_append.1 hmember with hmember | hmember
  · simp only [List.mem_cons, List.not_mem_nil, or_false] at hmember
    rcases hmember with rfl | rfl | rfl | rfl | rfl | rfl | rfl
    · exact .str _
    · exact Json.legible_ofBound _
    · exact Json.legible_ofBound _
    · exact .str _
    · exact .str _
    · exact .str _
    · exact Property.legible_listJson _
  · exact Marking.legible_of_mem_listFields hmember

lemma Model.legible_toJson (m : Model) : Legible (room + 6) m.toJson := by
  refine .obj fun member hmember => ?_
  simp only [List.mem_cons, List.not_mem_nil, or_false] at hmember
  rcases hmember with rfl | rfl | rfl
  · exact Json.legible_map (fun e => e.legible_toJson) m.elements
  · exact Json.legible_map (fun r => r.legible_toJson) m.relationships
  · exact Json.legible_map (fun r => r.legible_toJson) m.restrictions

/-! ## Types and relationships -/

/-- Only the sizes of a type decide whether it reads back. -/
lemma Element.ofJson?_toJson (e : Element) :
    ofJson? e.toJson = if e.width.isFinite ∧ e.height.isFinite then some e else none := by
  obtain ⟨name, width, height, properties, marking⟩ := e
  generalize hmembers : [("name", .str name), ("width", .ofFloat width),
    ("height", .ofFloat height), marking.labelPropertyField,
    ("properties", Property.listJson properties)] ++ marking.listFields = members
  have honce : Json.eachOnce ["name", "width", "height", "label_property", "properties", "labels",
      "styles"] members = true := by
    subst hmembers
    rfl
  have hname : Json.Fields.required (members.lookup ·) "name" Json.string? = some name := by
    subst hmembers
    rfl
  have hwidth : Json.Fields.withDefault (members.lookup ·) "width" defaultWidth Json.float? =
      Json.float? (.ofFloat width) := by
    subst hmembers
    rfl
  have hheight : Json.Fields.withDefault (members.lookup ·) "height" defaultHeight Json.float? =
      Json.float? (.ofFloat height) := by
    subst hmembers
    rfl
  have hproperties : Json.Fields.withDefault (members.lookup ·) "properties" [] Property.list? =
      some properties := by
    subst hmembers
    exact Property.list?_listJson properties
  have hmarking : Marking.ofFields? (members.lookup ·) = some marking := by
    subst hmembers
    exact Marking.ofFields?_eq rfl rfl rfl
  rw [ofJson?, toJson, hmembers, Json.record?_obj honce]
  simp only [Option.bind_eq_bind, Option.bind_some, hname, hwidth, hheight, hproperties, hmarking,
    Json.float?_ofFloat_eq]
  by_cases hw : width.isFinite <;> by_cases hh : height.isFinite <;> simp [hw, hh]

lemma Relationship.ofJson?_toJson (r : Relationship) : ofJson? r.toJson = some r := by
  obtain ⟨name, min, max, source, target, properties, marking⟩ := r
  generalize hmembers : [("name", .str name), ("min", .ofBound min), ("max", .ofBound max),
    ("source", .str source), ("target", .str target), marking.labelPropertyField,
    ("properties", Property.listJson properties)] ++ marking.listFields = members
  have honce : Json.eachOnce ["name", "min", "max", "source", "target", "label_property",
      "properties", "labels", "styles"] members = true := by
    subst hmembers
    rfl
  have hname : Json.Fields.required (members.lookup ·) "name" Json.string? = some name := by
    subst hmembers
    rfl
  -- A bound that is missing is written too, as `null`.
  have hmin : Json.Fields.withDefault (members.lookup ·) "min" none Json.bound? = some min := by
    subst hmembers
    exact Json.bound?_ofBound min
  have hmax : Json.Fields.withDefault (members.lookup ·) "max" none Json.bound? = some max := by
    subst hmembers
    exact Json.bound?_ofBound max
  have hsource : Json.Fields.required (members.lookup ·) "source" Json.string? = some source := by
    subst hmembers
    rfl
  have htarget : Json.Fields.required (members.lookup ·) "target" Json.string? = some target := by
    subst hmembers
    rfl
  have hproperties : Json.Fields.withDefault (members.lookup ·) "properties" [] Property.list? =
      some properties := by
    subst hmembers
    exact Property.list?_listJson properties
  have hmarking : Marking.ofFields? (members.lookup ·) = some marking := by
    subst hmembers
    exact Marking.ofFields?_eq rfl rfl rfl
  rw [ofJson?, toJson, hmembers, Json.record?_obj honce]
  simp only [Option.bind_eq_bind, Option.bind_some, hname, hmin, hmax, hsource, htarget,
    hproperties, hmarking]

/-! ## Definitions -/

namespace Model

lemma ofJson?_toJson (m : Model) :
    ofJson? m.toJson =
      if ∀ e ∈ m.elements, e.width.isFinite ∧ e.height.isFinite then some m else none := by
  have helements : Json.list? Element.ofJson? (.arr (m.elements.map Element.toJson)) =
      if ∀ e ∈ m.elements, e.width.isFinite ∧ e.height.isFinite then some m.elements else none :=
    Json.list?_map_eq_ite Element.ofJson?_toJson m.elements
  have hrelationships : Json.list? Relationship.ofJson?
      (.arr (m.relationships.map Relationship.toJson)) = some m.relationships :=
    Json.list?_map fun r _ => r.ofJson?_toJson
  have hrestrictions : Json.list? Restriction.ofJson?
      (.arr (m.restrictions.map Restriction.toJson)) = some m.restrictions :=
    Json.list?_map fun r _ => r.ofJson?_toJson
  show (Json.list? Element.ofJson? (.arr (m.elements.map Element.toJson))).bind
    (fun elements => (Json.list? Relationship.ofJson?
      (.arr (m.relationships.map Relationship.toJson))).bind fun relationships =>
        (Json.list? Restriction.ofJson? (.arr (m.restrictions.map Restriction.toJson))).bind
          fun restrictions => some (mk elements relationships restrictions)) = _
  rw [helements, hrelationships, hrestrictions]
  split <;> rfl

/-- What is read from the text of a definition, alone or as a line. -/
lemma parse?_text (m : Model) :
    let back := if ∀ e ∈ m.elements, e.width.isFinite ∧ e.height.isFinite then some m.reread else none
    parse? m.text = back ∧ parse? (m.text ++ "\n") = back := by
  intro back
  have hlegible : Legible (121 + 6) m.toJson := m.legible_toJson
  -- A size is read again as a finite one exactly if it is finite.
  have hback : ofJson? m.toJson.reread = back := by
    rw [reread_toJson, ofJson?_toJson]
    refine if_congr ?_ rfl rfl
    simp [reread, Element.reread, Json.Number.isFinite_rereadFloat]
  have hread {text : String} (h : Json.parse text = some m.toJson.reread) :
      parse? text = back := by
    rw [parse?, h, Option.bind_some, hback]
  exact ⟨hread (Json.parse_pretty hlegible), hread (Json.parse_pretty_line hlegible)⟩

/-- The text of a definition whose sizes are read from their texts as they are, alone or as a line,
reads back as the definition itself, with every type, relationship and restriction in its place,
unless a size of a type is not finite: then nothing is read. -/
theorem parse?_printed (m : Model) (hback : m.ReadsBack) :
    let back := if ∀ e ∈ m.elements, e.width.isFinite ∧ e.height.isFinite then some m else none
    parse? m.text = back ∧ parse? (m.text ++ "\n") = back := by
  have htext := m.parse?_text
  rw [reread_eq_iff.2 hback] at htext
  exact htext

theorem parse?_printed_abFlow : abFlow.ReadsBack ∧ parse? abFlow.text = some abFlow ∧
    parse? (abFlow.text ++ "\n") = some abFlow := by
  have hfinite : ∀ e ∈ abFlow.elements, e.width.isFinite ∧ e.height.isFinite := by
    decide +kernel
  have hprinted := parse?_printed abFlow readsBack_abFlow
  rw [if_pos hfinite] at hprinted
  exact ⟨readsBack_abFlow, hprinted⟩

end Model

end Atelier

/-
The text of a document, read again.

A document is written with its fields in their own order and read with the keys in order.  Its
text is that of an object that has under each key the canonical form of the field
(`exists_members_text`).  So it has all core keys, and a reader finds each list as it is and each
table with its names in order.  Both readers see the document with its tables sorted, which has
the same entries (`read_text`); a document whose tables are in order is read back as itself.
-/
import Atelier.Proofs.Language.Reread
import Atelier.Proofs.Semantics.Strict

namespace Atelier

open Json (Legible)

/-! ## Tables -/

namespace Json

variable {α : Type}

/-- What is found in the members of a table is what the entries have, as a value. -/
lemma get?_map (form : α → Json) (key : String) (entries : List (String × α)) :
    get? key (entries.map fun entry => (entry.1, form entry.2)) =
      (entries.lookup key).map form := by
  induction entries with
  | nil => rfl
  | cons entry entries ih =>
    obtain ⟨k, a⟩ := entry
    rw [List.map_cons, get?_cons, ih]
    by_cases hkey : key = k
    · simp [hkey]
    · have hne : (key == k) = false := by simpa using hkey
      simp [List.lookup_cons, hne, hkey]

end Json

namespace Table

variable {α : Type} {t : Table α} {write form : α → Json}

/-- The names stand in order. -/
def InOrder (t : Table α) : Prop :=
  t.entries.Pairwise fun entry other => entry.1 < other.1

lemma inOrder_empty : (empty : Table α).InOrder :=
  List.Pairwise.nil

lemma inOrder_insert_empty (name : String) (a : α) : (empty.insert name a).InOrder :=
  List.pairwise_singleton _ _

/-- Two tables have the same entries, in any order. -/
def Same (t t' : Table α) : Prop :=
  t.entries.Perm t'.entries

/-- The table with its names in order. -/
def sorted (t : Table α) : Table α where
  entries := t.entries.mergeSort fun entry other => decide (entry.1 ≤ other.1)
  distinct := ((List.mergeSort_perm _ _).map Prod.fst).nodup_iff.2 t.distinct

lemma same_sorted (t : Table α) : t.sorted.Same t :=
  List.mergeSort_perm _ _

lemma get?_eq_some_iff {name : String} {a : α} : t.get? name = some a ↔ (name, a) ∈ t.entries :=
  ⟨mem_of_lookup, t.get?_of_mem⟩

lemma get?_sorted (t : Table α) (name : String) : t.sorted.get? name = t.get? name := by
  ext a
  rw [get?_eq_some_iff, get?_eq_some_iff, t.same_sorted.mem_iff]

lemma inOrder_sorted (t : Table α) : t.sorted.InOrder := by
  have htrans (e e' e'' : String × α) (h : decide (e.1 ≤ e'.1) = true)
      (h' : decide (e'.1 ≤ e''.1) = true) : decide (e.1 ≤ e''.1) = true :=
    decide_eq_true (le_trans (of_decide_eq_true h) (of_decide_eq_true h'))
  have htotal (e e' : String × α) : (decide (e.1 ≤ e'.1) || decide (e'.1 ≤ e.1)) = true := by
    simpa using le_total e.1 e'.1
  have hle := List.pairwise_mergeSort htrans htotal t.entries
  -- No name stands twice.
  have hne : t.sorted.entries.Pairwise fun e e' => e.1 ≠ e'.1 :=
    List.pairwise_map.1 t.sorted.distinct
  exact hle.imp₂ (fun _ _ h h' => lt_of_le_of_ne (of_decide_eq_true h) h') hne

lemma InOrder.sorted_eq (h : t.InOrder) : t.sorted = t :=
  ext (List.mergeSort_of_pairwise (h.imp fun hlt => decide_eq_true hlt.le))

/-- The canonical form of a table has its names in order and the canonical forms of its values. -/
lemma canonical?_toJson
    (hform : ∀ entry ∈ t.entries, (write entry.2).canonical? = some (form entry.2)) :
    (t.toJson write).canonical? = some (t.sorted.toJson form) := by
  have hnodup : ((t.entries.map fun entry => (entry.1, form entry.2)).map Prod.fst).Nodup := by
    rw [List.map_map]
    exact t.distinct
  have hsorted : Json.Sorted (t.sorted.entries.map fun entry => (entry.1, form entry.2)) :=
    List.pairwise_map.2 t.inOrder_sorted
  have hmembers : Json.sortMembers (t.entries.map fun entry => (entry.1, form entry.2)) =
      t.sorted.entries.map fun entry => (entry.1, form entry.2) := by
    refine (Json.sorted_sortMembers _).ext hsorted fun key => ?_
    rw [Json.get?_sortMembers hnodup, Json.get?_map, Json.get?_map]
    exact congrArg (Option.map form) (t.get?_sorted key).symm
  rw [toJson, Json.canonical?, Json.canonicalMembers?_map hform, Option.map_some, hmembers]
  rfl

/-- A table of records is read from its canonical form if each of the records is. -/
lemma exists_canonical?_toJson {read : Json → Option α} {record : α → List (String × Json)}
    (hform : ∀ a, Json.canonical? (.obj (record a)) = some (.obj (Json.sortMembers (record a))))
    (hread : ∀ a, read (.obj (Json.sortMembers (record a))) = some a) (t : Table α) :
    ∃ v, (t.toJson (.obj <| record ·)).canonical? = some v ∧
      Json.table? read v = some t.sorted := by
  have hcanonical : (t.toJson (.obj <| record ·)).canonical? =
      some (t.sorted.toJson (.obj <| Json.sortMembers <| record ·)) :=
    canonical?_toJson fun entry _ => hform entry.2
  have htable : Json.table? read (t.sorted.toJson (.obj <| Json.sortMembers <| record ·)) =
      some t.sorted := Json.table?_toJson fun entry _ => hread entry.2
  exact ⟨_, hcanonical, htable⟩

end Table

namespace RelationPropertyField

/-- Sorting the fields gives the canonical form of the record. -/
lemma canonical?_obj (f : RelationPropertyField) :
    Json.canonical? (.obj f.fields) = some (.obj (Json.sortMembers f.fields)) := rfl

lemma ofJson?_fields (f : RelationPropertyField) :
    ofJson? (.obj (Json.sortMembers f.fields)) = some f := by
  rw [ofJson?, Json.record?_sortMembers _ (by simp [fields])]
  show (Json.word? (.ofNat f.index.toNat)).bind (fun index => some (mk f.key index)) = some f
  rw [Json.word?_ofNat, Option.bind_some]

lemma legible {room : Nat} (f : RelationPropertyField) : Legible (room + 1) (.obj f.fields) := by
  refine .obj fun field hfield => ?_
  simp only [fields, List.mem_cons, List.not_mem_nil, or_false] at hfield
  rcases hfield with rfl | rfl
  · exact .str f.key
  · exact .num (Nat.lt_trans f.index.toNat_lt (by decide))

end RelationPropertyField

namespace Semantics

variable {room : Nat} {d : Semantics}

/-! ## What is written -/

lemma legible_of_mem_fields {field : String × Json} (hfield : field ∈ d.fields) :
    Legible (room + 3) field.2 := by
  have hlist : ∀ texts, Legible (room + 3) (.ofStrings texts) := fun texts =>
    Json.legible_ofStrings texts
  simp only [fields, List.mem_cons, List.not_mem_nil, or_false] at hfield
  rcases hfield with rfl | rfl | rfl | rfl | rfl | rfl | rfl | rfl | rfl
  case inr.inl => exact Table.legible_toJson (fun r => r.flat_fields.legible_obj) d.elementRules
  case inr.inr.inr.inl =>
    exact Table.legible_toJson (fun r => r.flat_fields.legible_obj) d.relationRules
  case inr.inr.inr.inr.inr.inl =>
    exact Table.legible_toJson (fun r => r.flat_fields.legible_obj) d.attributeRules
  case inr.inr.inr.inr.inr.inr.inr.inr =>
    exact Table.legible_toJson (fun f => f.legible) d.relationPropertySchema
  all_goals exact hlist _

lemma legible_toJson (d : Semantics) : Legible (room + 4) d.toJson :=
  .obj fun _ hfield => legible_of_mem_fields hfield

/-- A document has no double. -/
lemma readsBack_toJson (d : Semantics) : d.toJson.ReadsBack := by
  have hlist (texts : List String) : (Json.ofStrings texts).reread = .ofStrings texts :=
    Json.readsBack_ofStrings texts
  have helement (r : ElementSemantics) : (Json.obj r.fields).reread = .obj r.fields :=
    r.flat_fields.readsBack_obj
  have hrelation (r : RelationSemantics) : (Json.obj r.fields).reread = .obj r.fields :=
    r.flat_fields.readsBack_obj
  have hattribute (r : AttributeSemantics) : (Json.obj r.fields).reread = .obj r.fields :=
    r.flat_fields.readsBack_obj
  have hschema (f : RelationPropertyField) : (Json.obj f.fields).reread = .obj f.fields := rfl
  simp [Json.ReadsBack, toJson, fields, Json.reread_obj, hlist, helement, hrelation, hattribute,
    hschema]

/-- The text denotes an object with the canonical form of each field. -/
lemma exists_members_text (d : Semantics) :
    ∃ members, Json.parseCanonical d.text = some (.obj members) ∧
      ∀ key, Json.get? key members = (Json.get? key d.fields).bind Json.canonical? := by
  have hlegible : Legible (123 + 4) d.toJson := d.legible_toJson
  have hreadable : (Json.canonicalMembers? d.fields).isSome = true := by
    refine Json.isSome_canonicalMembers? fun field hfield => ?_
    have hfield' : Legible (0 + 3) field.2 := legible_of_mem_fields hfield
    exact hfield'.readable
  obtain ⟨forms, hforms⟩ := Option.isSome_iff_exists.1 hreadable
  obtain ⟨hkeys, hfound⟩ := Json.get?_of_canonicalMembers? hforms
  have hnodup : (forms.map Prod.fst).Nodup := by
    rw [hkeys]
    simp [fields]
  refine ⟨Json.sortMembers forms, ?_, fun key => ?_⟩
  · rw [Json.parseCanonical, text, Json.parse_pretty hlegible, d.readsBack_toJson,
      Option.bind_some, toJson, Json.canonical?, hforms, Option.map_some]
  · rw [Json.get?_sortMembers hnodup, hfound]

/-- A text of a document has all core keys. -/
lemma exists_core_text (d : Semantics) : ∃ members, core d.text = .ok members ∧
    ∀ key, Json.get? key members = (Json.get? key d.fields).bind Json.canonical? := by
  obtain ⟨members, hparsed, hfound⟩ := d.exists_members_text
  refine ⟨members, core_eq_ok_iff.2 ⟨hparsed, fun key hkey => ?_⟩, hfound⟩
  obtain ⟨v, hv⟩ : ∃ v, Json.get? key d.fields = some v := by
    simp only [coreKeys, List.mem_cons, List.not_mem_nil, or_false] at hkey
    rcases hkey with rfl | rfl | rfl | rfl <;> exact ⟨_, rfl⟩
  have hlegible : Legible (0 + 3) v := legible_of_mem_fields (Json.mem_of_get? hv)
  obtain ⟨form, hform⟩ := Option.isSome_iff_exists.1 hlegible.readable
  exact ⟨form, by rw [hfound, hv, Option.bind_some, hform]⟩

/-! ## What is read -/

/-- The document with the names of each table in order. -/
def sorted (d : Semantics) : Semantics :=
  { d with
    elementRules := d.elementRules.sorted
    relationRules := d.relationRules.sorted
    attributeRules := d.attributeRules.sorted
    relationPropertySchema := d.relationPropertySchema.sorted }

/-- Two documents have the same lists, and tables with the same entries in any order. -/
structure Same (d d' : Semantics) : Prop where
  elementTypes : d.elementTypes = d'.elementTypes
  elementRules : d.elementRules.Same d'.elementRules
  relationTypes : d.relationTypes = d'.relationTypes
  relationRules : d.relationRules.Same d'.relationRules
  attributeTypes : d.attributeTypes = d'.attributeTypes
  attributeRules : d.attributeRules.Same d'.attributeRules
  hierarchyTypes : d.hierarchyTypes = d'.hierarchyTypes
  typingRelationTypes : d.typingRelationTypes = d'.typingRelationTypes
  relationPropertySchema : d.relationPropertySchema.Same d'.relationPropertySchema

lemma same_sorted (d : Semantics) : d.sorted.Same d where
  elementTypes := rfl
  elementRules := d.elementRules.same_sorted
  relationTypes := rfl
  relationRules := d.relationRules.same_sorted
  attributeTypes := rfl
  attributeRules := d.attributeRules.same_sorted
  hierarchyTypes := rfl
  typingRelationTypes := rfl
  relationPropertySchema := d.relationPropertySchema.same_sorted

lemma listIn_ofStrings (texts : List String) : listIn (some (.ofStrings texts)) = texts := by
  rw [listIn, Option.bind_some, Json.strings?_ofStrings, Option.getD_some]

lemma rulesIn_of_table? {α : Type} {read : Json → Option α} {v : Json} {t : Table α}
    (h : Json.table? read v = some t) : rulesIn read (some v) = t := by
  cases v with
  | obj members =>
    rw [rulesIn, storedTable_obj, h, Option.getD_some]
  | _ => cases h

lemma forall_found {found : Option Json} {w : Json} {P : Json → Prop} (h : found = some w)
    (hw : P w) : ∀ v, found = some v → P v := by
  rintro v rfl
  obtain rfl := Option.some.inj h
  exact hw

/-- Where the canonical form of each field is found, every field has its shape, and what is seen is
the document with its tables sorted. -/
lemma seen_fields {members : List (String × Json)}
    (hfound : ∀ key, Json.get? key members = (Json.get? key d.fields).bind Json.canonical?) :
    WellShaped (Json.get? · members) ∧ seen (Json.get? · members) = d.sorted := by
  have hlist (texts : List String) :
      Json.canonical? (.ofStrings texts) = some (.ofStrings texts) :=
    (Json.canonical_ofStrings texts).canonical?_eq
  obtain ⟨v, hv, helements⟩ := Table.exists_canonical?_toJson (fun r => r.flat_fields.canonical?_obj)
    ElementSemantics.ofJson?_fields d.elementRules
  obtain ⟨v', hv', hrelations⟩ := Table.exists_canonical?_toJson
    (fun r => r.flat_fields.canonical?_obj) RelationSemantics.ofJson?_fields d.relationRules
  obtain ⟨v'', hv'', hattributes⟩ := Table.exists_canonical?_toJson
    (fun r => r.flat_fields.canonical?_obj) AttributeSemantics.ofJson?_fields d.attributeRules
  obtain ⟨w, hw, hschema⟩ := Table.exists_canonical?_toJson (fun f => f.canonical?_obj)
    RelationPropertyField.ofJson?_fields d.relationPropertySchema
  have h1 : Json.get? "elementTypes" members = some (.ofStrings d.elementTypes) :=
    (hfound _).trans (hlist _)
  have h2 : Json.get? "elementTranslationRules" members = some v := (hfound _).trans hv
  have h3 : Json.get? "relationTypes" members = some (.ofStrings d.relationTypes) :=
    (hfound _).trans (hlist _)
  have h4 : Json.get? "relationTranslationRules" members = some v' := (hfound _).trans hv'
  have h5 : Json.get? "attributeTypes" members = some (.ofStrings d.attributeTypes) :=
    (hfound _).trans (hlist _)
  have h6 : Json.get? "attributeTranslationRules" members = some v'' := (hfound _).trans hv''
  have h7 : Json.get? "hierarchyTypes" members = some (.ofStrings d.hierarchyTypes) :=
    (hfound _).trans (hlist _)
  have h8 : Json.get? "typingRelationTypes" members = some (.ofStrings d.typingRelationTypes) :=
    (hfound _).trans (hlist _)
  have h9 : Json.get? "relationPropertySchema" members = some w := (hfound _).trans hw
  constructor
  · exact {
      elementTypes := forall_found h1 ⟨_, rfl⟩
      elementRules := forall_found h2 (.inr (Json.exists_table?_iff.1 ⟨_, helements⟩))
      relationTypes := forall_found h3 ⟨_, rfl⟩
      relationRules := forall_found h4 (.inr (Json.exists_table?_iff.1 ⟨_, hrelations⟩))
      attributeTypes := forall_found h5 ⟨_, rfl⟩
      attributeRules := forall_found h6 (.inr (Json.exists_table?_iff.1 ⟨_, hattributes⟩))
      hierarchyTypes := forall_found h7 ⟨_, rfl⟩
      typingRelationTypes := forall_found h8 ⟨_, rfl⟩
      relationPropertySchema := forall_found h9 (Json.exists_table?_iff.1 ⟨_, hschema⟩) }
  · simp only [seen, h1, h2, h3, h4, h5, h6, h7, h8, h9, listIn_ofStrings,
      rulesIn_of_table? helements, rulesIn_of_table? hrelations, rulesIn_of_table? hattributes,
      rulesIn_of_table? hschema, sorted]

lemma current_text_eq_sorted (d : Semantics) : current d.text = d.sorted := by
  obtain ⟨members, hparsed, hfound⟩ := d.exists_members_text
  rw [current_eq_seen, SemanticsEdit.storedMembers_eq hparsed]
  exact (seen_fields hfound).2

/-- The strict reader and the lenient one both read the text of any document as the document itself,
with the same lists and with the same entries in each table; the names of each table are then in
order. -/
theorem read_text (d : Semantics) :
    parse d.text = .ok d.sorted ∧ current d.text = d.sorted ∧ d.sorted.Same d := by
  obtain ⟨members, hcore, hfound⟩ := d.exists_core_text
  obtain ⟨hshape, hseen⟩ := seen_fields hfound
  exact ⟨parse_eq_ok_iff.2 ⟨members, hcore, hshape, hseen⟩, d.current_text_eq_sorted,
    d.same_sorted⟩

/-! ## Documents in order -/

/-- A document that its text determines: its tables are in order. -/
structure Regular (d : Semantics) : Prop where
  elementRules : d.elementRules.InOrder
  relationRules : d.relationRules.InOrder
  attributeRules : d.attributeRules.InOrder
  relationPropertySchema : d.relationPropertySchema.InOrder

lemma Regular.sorted_eq (h : d.Regular) : d.sorted = d := by
  rw [sorted, h.elementRules.sorted_eq, h.relationRules.sorted_eq, h.attributeRules.sorted_eq,
    h.relationPropertySchema.sorted_eq]

/-- A document with its tables in order is read back from its text. -/
theorem current_text (h : d.Regular) : current d.text = d := by
  rw [current_text_eq_sorted, h.sorted_eq]

end Semantics

end Atelier

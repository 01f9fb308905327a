/-
A language definition survives its textual form.

Both documents are read again as they were written, but for the sizes (`AbstractSyntax.parse_pretty`,
`ConcreteSyntax.parse_pretty`), and a definition is put together again from its two halves, which
are joined by name (`Model.ofSyntax_eq`).  For that no name may be declared twice; a definition
that repeats one has no textual form.
-/
import Atelier.Proofs.Json.Distinct
import Atelier.Proofs.Language.Records
import Atelier.Proofs.Language.Reread

namespace Atelier

/-! ## The two documents -/

namespace AbstractSyntax

lemma ofJson?_toJson (a : AbstractSyntax) : ofJson? a.toJson = some a := by
  have helements := Json.table?_toJson (t := a.elements)
    fun entry _ => elementDeclaration?_json entry.2
  have hrelationships := Json.table?_toJson (t := a.relationships)
    fun entry _ => entry.2.ofJson?_toJson
  have hrestrictions : Json.list? Restriction.ofJson?
      (.arr (a.restrictions.map Restriction.toJson)) = some a.restrictions :=
    Json.list?_map fun r _ => r.ofJson?_toJson
  show (Json.table? elementDeclaration? (a.elements.toJson elementDeclarationJson)).bind
    (fun elements => (Json.table? Declaration.ofJson?
      (a.relationships.toJson Declaration.toJson)).bind fun relationships =>
        (Json.list? Restriction.ofJson? (.arr (a.restrictions.map Restriction.toJson))).bind
          fun restrictions => some (mk elements relationships restrictions)) = some a
  rw [helements, hrelationships, hrestrictions]
  rfl

/-- The text of an abstract syntax is an object, also without any declaration. -/
lemma blank_pretty (a : AbstractSyntax) : blank a.toJson.pretty = false := by
  rw [blank, Json.pretty, String.toList_ofList]
  rfl

/-- The text of an abstract syntax denotes it. -/
lemma parse_pretty (a : AbstractSyntax) : parse a.toJson.pretty = .ok a := by
  have hlegible : Json.Legible (121 + 6) a.toJson := a.legible_toJson
  rw [parse, Json.parse_pretty hlegible, Option.bind_some, reread_toJson, ofJson?_toJson]

/-- No two abstract syntaxes have the same text. -/
lemma pretty_inj {a b : AbstractSyntax} : a.toJson.pretty = b.toJson.pretty ↔ a = b := by
  constructor
  · intro h
    have hread := a.parse_pretty
    rw [h, b.parse_pretty] at hread
    exact (Except.ok.inj hread).symm
  · rintro rfl
    rfl

end AbstractSyntax

namespace ConcreteSyntax

variable {c : ConcreteSyntax}

lemma ofJson?_toJson
    (h : ∀ entry ∈ c.elements.entries, entry.2.width.isFinite ∧ entry.2.height.isFinite) :
    ofJson? c.toJson = some c := by
  have helements := Json.table?_toJson (t := c.elements)
    fun entry hentry => ElementRule.ofJson?_toJson (h entry hentry).1 (h entry hentry).2
  have hrelationships := Json.table?_toJson (t := c.relationships)
    fun entry _ => entry.2.ofJson?_toJson
  show (Json.table? ElementRule.ofJson? (c.elements.toJson ElementRule.toJson)).bind
    (fun elements => (Json.table? Marking.ofJson? (c.relationships.toJson Marking.toJson)).bind
      fun relationships => some (mk elements relationships)) = some c
  rw [helements, hrelationships]
  rfl

/-- The text of a concrete syntax is an object, also without any rule. -/
lemma blank_pretty (c : ConcreteSyntax) : blank c.toJson.pretty = false := by
  rw [blank, Json.pretty, String.toList_ofList]
  rfl

/-- The text of a concrete syntax of which all sizes are finite denotes it with its sizes read
again. -/
lemma parse_pretty
    (h : ∀ entry ∈ c.elements.entries, entry.2.width.isFinite ∧ entry.2.height.isFinite) :
    parse c.toJson.pretty = .ok c.reread := by
  have hlegible : Json.Legible (122 + 5) c.toJson := c.legible_toJson
  rw [parse, blank_pretty, if_neg Bool.false_ne_true, Json.parse_pretty hlegible,
    Option.bind_some, reread_toJson, ofJson?_toJson (isFinite_reread h)]

/-- No two concrete syntaxes of which all sizes are finite have the same text, although both may be
read as one. -/
lemma pretty_inj {d : ConcreteSyntax}
    (h : ∀ entry ∈ c.elements.entries, entry.2.width.isFinite ∧ entry.2.height.isFinite)
    (h' : ∀ entry ∈ d.elements.entries, entry.2.width.isFinite ∧ entry.2.height.isFinite) :
    c.toJson.pretty = d.toJson.pretty ↔ c = d := by
  have hlegible (c : ConcreteSyntax) : Json.Legible (122 + 5) c.toJson := c.legible_toJson
  constructor
  · intro htext
    have hread := ofJson?_toJson h
    rw [Json.pretty_inj (hlegible c) (hlegible d) htext, ofJson?_toJson h'] at hread
    exact (Option.some.inj hread).symm
  · rintro rfl
    rfl

end ConcreteSyntax

/-! ## Names declared once -/

lemma firstRepeated?_eq_none_iff {seen names : List String} :
    firstRepeated? seen names = none ↔ names.Nodup ∧ ∀ name ∈ names, name ∉ seen := by
  induction names generalizing seen with
  | nil => simp [firstRepeated?]
  | cons name names ih =>
    unfold firstRepeated?
    split
    · rename_i hseen
      simp [hseen]
    · rename_i hnew
      rw [ih, List.nodup_cons]
      constructor
      · rintro ⟨hnodup, hrest⟩
        refine ⟨⟨fun hname => hrest name hname (by simp), hnodup⟩, ?_⟩
        intro other hother
        rcases List.mem_cons.1 hother with rfl | hother
        · exact hnew
        · exact fun hseen => hrest other hother (List.mem_cons_of_mem name hseen)
      · rintro ⟨⟨hname, hnodup⟩, hrest⟩
        refine ⟨hnodup, fun other hother hseen => ?_⟩
        rcases List.mem_cons.1 hseen with rfl | hseen
        · exact hname hother
        · exact hrest other (List.mem_cons_of_mem name hother) hseen

namespace Model

variable {m : Model}

lemma fault?_eq_none_iff :
    m.fault? = none ↔ (m.elements.map (·.name)).Nodup ∧ (m.relationships.map (·.name)).Nodup ∧
      m.abstractSyntax.unknownReference? = none := by
  have hnew {names : List String} : firstRepeated? [] names = none ↔ names.Nodup := by
    simp [firstRepeated?_eq_none_iff]
  rw [← hnew, ← hnew, fault?]
  simp

/-- A definition that declares no name twice is put together again from its two halves. -/
lemma ofSyntax_eq (helements : (m.elements.map (·.name)).Nodup)
    (hrelationships : (m.relationships.map (·.name)).Nodup) :
    ofSyntax m.abstractSyntax m.concreteSyntax = m := by
  have helement (e : Element) (he : e ∈ m.elements) :
      Element.ofParts e.name e.properties
        ((m.concreteSyntax.elements.get? e.name).getD .default) = e := by
    have hrule := Table.get?_ofList_map (·.name) Element.rule helements he
    rw [concreteSyntax, hrule]
    rfl
  have hrelationship (r : Relationship) (hr : r ∈ m.relationships) :
      Relationship.ofParts r.name r.declaration
        ((m.concreteSyntax.relationships.get? r.name).getD .none) = r := by
    have hmarking := Table.get?_ofList_map (·.name) (·.marking) hrelationships hr
    rw [concreteSyntax, hmarking]
    rfl
  have hjoined : (ofSyntax m.abstractSyntax m.concreteSyntax).elements = m.elements := by
    have hentries := Table.entries_ofList_map (·.name) Element.properties helements
    rw [ofSyntax, abstractSyntax, hentries, List.map_map]
    exact (List.map_congr_left helement).trans (List.map_id _)
  have hjoined' : (ofSyntax m.abstractSyntax m.concreteSyntax).relationships =
      m.relationships := by
    have hentries := Table.entries_ofList_map (·.name) Relationship.declaration hrelationships
    rw [ofSyntax, abstractSyntax, hentries, List.map_map]
    exact (List.map_congr_left hrelationship).trans (List.map_id _)
  -- The restrictions are not taken apart at all.
  calc ofSyntax m.abstractSyntax m.concreteSyntax
      = ⟨(ofSyntax m.abstractSyntax m.concreteSyntax).elements,
          (ofSyntax m.abstractSyntax m.concreteSyntax).relationships, m.restrictions⟩ := rfl
    _ = m := by rw [hjoined, hjoined']

/-- The concrete syntax has rules for the types of the abstract syntax only. -/
lemma undeclared?_eq_none (helements : (m.elements.map (·.name)).Nodup)
    (hrelationships : (m.relationships.map (·.name)).Nodup) :
    m.concreteSyntax.undeclared? m.abstractSyntax = none := by
  have hnames : m.concreteSyntax.elements.names = m.abstractSyntax.elements.names := by
    rw [concreteSyntax, abstractSyntax, Table.names_ofList_map _ _ helements,
      Table.names_ofList_map _ _ helements]
  have hnames' : m.concreteSyntax.relationships.names = m.abstractSyntax.relationships.names := by
    rw [concreteSyntax, abstractSyntax, Table.names_ofList_map _ _ hrelationships,
      Table.names_ofList_map _ _ hrelationships]
  rw [ConcreteSyntax.undeclared?, hnames, hnames']
  simp [Table.contains]

/-- The measures of the rules are those of the elements. -/
lemma isFinite_of_mem_rules (helements : (m.elements.map (·.name)).Nodup)
    (hfinite : ∀ e ∈ m.elements, e.width.isFinite ∧ e.height.isFinite) :
    ∀ entry ∈ m.concreteSyntax.elements.entries,
      entry.2.width.isFinite ∧ entry.2.height.isFinite := by
  intro entry hentry
  rw [concreteSyntax, Table.entries_ofList_map _ _ helements] at hentry
  obtain ⟨e, he, rfl⟩ := List.mem_map.1 hentry
  exact hfinite e he

lemma toText_eq_ok_iff {text : SyntaxText} : m.toText = .ok text ↔
    m.fault? = none ∧
      text = ⟨m.abstractSyntax.toJson.pretty, m.concreteSyntax.toJson.pretty⟩ := by
  rw [toText]
  cases m.fault? with
  | some e => simp
  | none => simp [eq_comm]

/-- What is written for a definition is read as the definition with its sizes read again. -/
lemma ofText_toText {text : SyntaxText} (h : m.toText = .ok text)
    (hfinite : ∀ e ∈ m.elements, e.width.isFinite ∧ e.height.isFinite) :
    ofText text = .ok m.reread := by
  -- There is a text only if no name is declared twice and every reference is declared.
  obtain ⟨hfault, rfl⟩ := toText_eq_ok_iff.1 h
  have hfault' : m.reread.fault? = none := m.fault?_reread.trans hfault
  obtain ⟨helements, hrelationships, hreferences⟩ := fault?_eq_none_iff.1 hfault
  obtain ⟨helements', -, -⟩ := fault?_eq_none_iff.1 hfault'
  have habstract := m.abstractSyntax.parse_pretty
  have hconcrete := ConcreteSyntax.parse_pretty (isFinite_of_mem_rules helements hfinite)
  rw [← concreteSyntax_reread] at hconcrete
  have hundeclared := undeclared?_eq_none helements' hrelationships
  have hjoined := ofSyntax_eq helements' hrelationships
  rw [abstractSyntax_reread] at hundeclared hjoined
  rw [ofText, habstract, hconcrete]
  simp only [Bind.bind, Except.bind, hreferences, hundeclared, hjoined]
  rfl

/-- A definition with a textual form is read back from it, every part in its place, if its sizes
are read from their texts as they are. -/
theorem ofText_of_toText {text : SyntaxText} (h : m.toText = .ok text)
    (hfinite : ∀ e ∈ m.elements, e.width.isFinite ∧ e.height.isFinite) (hback : m.ReadsBack) :
    ofText text = .ok m := by
  rw [ofText_toText h hfinite, reread_eq_iff.2 hback]

theorem ofText_of_toText_abFlow :
    ∃ text, abFlow.toText = .ok text ∧
      (∀ e ∈ abFlow.elements, e.width.isFinite ∧ e.height.isFinite) ∧ abFlow.ReadsBack ∧
        ofText text = .ok abFlow := by
  have hfault : abFlow.fault? = none := by decide +kernel
  have htext := toText_eq_ok_iff.2 ⟨hfault, rfl⟩
  have hfinite : ∀ e ∈ abFlow.elements, e.width.isFinite ∧ e.height.isFinite := by
    decide +kernel
  exact ⟨_, htext, hfinite, readsBack_abFlow, ofText_of_toText htext hfinite readsBack_abFlow⟩

end Model

end Atelier

/-
Texts of a language definition in their normal form.

A definition can be written in many texts: with members in any order, repeated or unknown, with
arrays for records, and without the rules that have defaults.  Whatever the text, what is read
from it has a text of its own, the only one that is ever written for it.  Reading that one gives
the definition with its sizes read again: it is its own normal form exactly if the sizes are read
from their texts as they are (`Model.toText_of_ofText`), and not all are
(`Model.not_normal_once`).
-/
import Atelier.Proofs.Json.Decoded
import Atelier.Proofs.Language.RoundTrip

namespace Atelier

variable {room : Nat}

/-! ## Measures that are read -/

lemma ElementRule.isFinite_default :
    default.width.isFinite = true ∧ default.height.isFinite = true := by
  decide +kernel

lemma ElementRule.isFinite_of_ofJson? {v : Json} {rule : ElementRule}
    (hv : Json.Bounded (room + 1) v) (h : ofJson? v = some rule) :
    rule.width.isFinite = true ∧ rule.height.isFinite = true := by
  obtain ⟨fields, hfields, h⟩ := Option.bind_eq_some_iff.1 h
  obtain ⟨width, hwidth, h⟩ := Option.bind_eq_some_iff.1 h
  obtain ⟨height, hheight, h⟩ := Option.bind_eq_some_iff.1 h
  obtain ⟨marking, -, h⟩ := Option.bind_eq_some_iff.1 h
  obtain rfl := Option.some.inj h
  exact ⟨Json.isFinite_of_withDefault hv hfields isFinite_default.1 hwidth,
    Json.isFinite_of_withDefault hv hfields isFinite_default.2 hheight⟩

/-- The rules of elements are read from parts of the value, or there are none. -/
lemma ConcreteSyntax.isFinite_of_ofJson? {v : Json} {c : ConcreteSyntax}
    (hv : Json.Bounded (room + 3) v) (h : ofJson? v = some c) :
    ∀ entry ∈ c.elements.entries, entry.2.width.isFinite = true ∧ entry.2.height.isFinite = true := by
  obtain ⟨fields, hfields, h⟩ := Option.bind_eq_some_iff.1 h
  obtain ⟨elements, helements, h⟩ := Option.bind_eq_some_iff.1 h
  obtain ⟨relationships, -, h⟩ := Option.bind_eq_some_iff.1 h
  obtain rfl := Option.some.inj h
  intro entry hentry
  rcases Json.eq_or_exists_of_withDefault hv hfields helements with rfl | ⟨w, hw, htable⟩
  · cases hentry
  · obtain ⟨rule, hrule, hread⟩ := Json.exists_of_mem_table? hw htable entry hentry
    exact ElementRule.isFinite_of_ofJson? hrule hread

/-- All measures in a concrete syntax that is read are finite. -/
lemma ConcreteSyntax.isFinite_of_parse {text : String} {c : ConcreteSyntax}
    (h : parse text = .ok c) :
    ∀ entry ∈ c.elements.entries, entry.2.width.isFinite = true ∧ entry.2.height.isFinite = true := by
  unfold parse at h
  split at h
  · -- A blank text has no rules.
    obtain rfl := Except.ok.inj h
    intro entry hentry
    cases hentry
  · split at h
    · rename_i c' hread
      obtain rfl := Except.ok.inj h
      obtain ⟨v, hparse, hread⟩ := Option.bind_eq_some_iff.1 hread
      have hv : Json.Bounded (124 + 3) v := Json.bounded_of_parse hparse
      exact isFinite_of_ofJson? hv hread
    · cases h

namespace Model

variable {a : AbstractSyntax} {c : ConcreteSyntax} {text : SyntaxText} {m : Model}

/-! ## What a definition is read from -/

/-- A definition is read from two documents, in which every reference and every rule is of a type
that is declared. -/
lemma ofText_eq_ok_iff :
    ofText text = .ok m ↔ ∃ a c, AbstractSyntax.parse text.abstract = .ok a ∧
      ConcreteSyntax.parse text.concrete = .ok c ∧ a.unknownReference? = none ∧
      c.undeclared? a = none ∧ ofSyntax a c = m := by
  rw [ofText]
  cases ha : AbstractSyntax.parse text.abstract with
  | error e => simp [Bind.bind, Except.bind]
  | ok a =>
    cases hc : ConcreteSyntax.parse text.concrete with
    | error e => simp [Bind.bind, Except.bind]
    | ok c =>
      cases hreference : a.unknownReference? with
      | some e => simp [Bind.bind, Except.bind, hreference]
      | none =>
        cases hrule : c.undeclared? a with
        | some e => simp [Bind.bind, Except.bind, hreference, hrule]
        | none => simp [Bind.bind, Except.bind, hreference, hrule]

/-! ## The documents of a definition that is read -/

/-- The declarations of a definition are those that it was put together from. -/
lemma abstractSyntax_ofSyntax (a : AbstractSyntax) (c : ConcreteSyntax) :
    (ofSyntax a c).abstractSyntax = a := by
  have helements : (ofSyntax a c).abstractSyntax.elements = a.elements := by
    show Table.ofList ((ofSyntax a c).elements.map fun e => (e.name, e.properties)) = _
    rw [ofSyntax, List.map_map]
    exact (congrArg Table.ofList (List.map_id _)).trans a.elements.ofList_entries
  have hrelationships : (ofSyntax a c).abstractSyntax.relationships = a.relationships := by
    show Table.ofList ((ofSyntax a c).relationships.map fun r => (r.name, r.declaration)) = _
    rw [ofSyntax, List.map_map]
    exact (congrArg Table.ofList (List.map_id _)).trans a.relationships.ofList_entries
  calc (ofSyntax a c).abstractSyntax
      = ⟨(ofSyntax a c).abstractSyntax.elements, (ofSyntax a c).abstractSyntax.relationships,
          a.restrictions⟩ := rfl
    _ = a := by rw [helements, hrelationships]

/-- A table gives each name once, and so do the elements and the relationships. -/
lemma nodup_ofSyntax (a : AbstractSyntax) (c : ConcreteSyntax) :
    ((ofSyntax a c).elements.map (·.name)).Nodup ∧
      ((ofSyntax a c).relationships.map (·.name)).Nodup := by
  rw [ofSyntax, List.map_map, List.map_map]
  exact ⟨a.elements.distinct, a.relationships.distinct⟩

lemma fault?_ofSyntax (h : a.unknownReference? = none) : (ofSyntax a c).fault? = none := by
  obtain ⟨helements, hrelationships⟩ := nodup_ofSyntax a c
  refine fault?_eq_none_iff.2 ⟨helements, hrelationships, ?_⟩
  rw [abstractSyntax_ofSyntax, h]

/-- The measures of an element are those of its rule, or the defaults. -/
lemma isFinite_ofSyntax
    (h : ∀ entry ∈ c.elements.entries, entry.2.width.isFinite ∧ entry.2.height.isFinite) :
    ∀ e ∈ (ofSyntax a c).elements, e.width.isFinite ∧ e.height.isFinite := by
  intro e he
  obtain ⟨⟨name, properties⟩, -, rfl⟩ := List.mem_map.1 he
  cases hrule : c.elements.get? name with
  | none =>
    simp only [hrule]
    exact ElementRule.isFinite_default
  | some rule =>
    simp only [hrule]
    exact h (name, rule) (Table.mem_of_lookup hrule)

/-! ## Writing a definition -/

lemma toText_of_fault? (h : m.fault? = none) :
    m.toText = .ok ⟨m.abstractSyntax.toJson.pretty, m.concreteSyntax.toJson.pretty⟩ :=
  toText_eq_ok_iff.2 ⟨h, rfl⟩

/-- Different concrete documents are written for different sizes. -/
lemma pretty_reread_eq_iff (h : m.fault? = none)
    (hfinite : ∀ e ∈ m.elements, e.width.isFinite ∧ e.height.isFinite) :
    m.reread.concreteSyntax.toJson.pretty = m.concreteSyntax.toJson.pretty ↔ m.ReadsBack := by
  obtain ⟨helements, hrelationships, -⟩ := fault?_eq_none_iff.1 h
  obtain ⟨helements', hrelationships', -⟩ := fault?_eq_none_iff.1 (m.fault?_reread.trans h)
  have hrules := isFinite_of_mem_rules helements hfinite
  rw [concreteSyntax_reread,
    ConcreteSyntax.pretty_inj (ConcreteSyntax.isFinite_reread hrules) hrules,
    ← concreteSyntax_reread, ← reread_eq_iff]
  constructor
  · intro hconcrete
    have hjoined := ofSyntax_eq helements' hrelationships'
    rw [abstractSyntax_reread, hconcrete, ofSyntax_eq helements hrelationships] at hjoined
    exact hjoined.symm
  · intro hback
    rw [hback]

/-- What is read and written again has the same abstract document, and the same concrete one
exactly if its sizes are read back. -/
lemma exists_toText_reread {written : SyntaxText} (h : m.toText = .ok written)
    (hfinite : ∀ e ∈ m.elements, e.width.isFinite ∧ e.height.isFinite) :
    ∃ again, m.reread.toText = .ok again ∧ again.abstract = written.abstract ∧
      (again.concrete = written.concrete ↔ m.ReadsBack) := by
  obtain ⟨hfault, rfl⟩ := toText_eq_ok_iff.1 h
  refine ⟨_, toText_of_fault? (m.fault?_reread.trans hfault), ?_,
    pretty_reread_eq_iff hfault hfinite⟩
  rw [abstractSyntax_reread]

/-- What is written for a definition that is read, and what is read and written then. -/
lemma exists_written (h : ofText text = .ok m) :
    ∃ written, m.toText = .ok written ∧
      ∀ e ∈ m.elements, e.width.isFinite ∧ e.height.isFinite := by
  obtain ⟨a, c, -, hc, hreferences, -, rfl⟩ := ofText_eq_ok_iff.1 h
  exact ⟨_, toText_of_fault? (fault?_ofSyntax hreferences),
    isFinite_ofSyntax (ConcreteSyntax.isFinite_of_parse hc)⟩

/-- Every text that is read has a normal form: the text of the definition it denotes.  That text
denotes the definition with its sizes read again.  Written once more it has the same abstract
document.  It denotes the definition itself, and has the same concrete document, exactly if all
sizes are read from their texts as they are. -/
theorem toText_of_ofText (h : ofText text = .ok m) :
    ∃ written, m.toText = .ok written ∧ ofText written = .ok m.reread ∧
      (ofText written = .ok m ↔ m.ReadsBack) ∧
      ∃ again, (ofText written).bind toText = .ok again ∧ again.abstract = written.abstract ∧
        (again.concrete = written.concrete ↔ m.ReadsBack) := by
  obtain ⟨written, hwritten, hfinite⟩ := exists_written h
  have hread := ofText_toText hwritten hfinite
  refine ⟨written, hwritten, hread, ?_, ?_⟩
  · rw [hread, Except.ok.injEq, reread_eq_iff]
  · rw [hread]
    exact exists_toText_reread hwritten hfinite

/-- A text with members out of order, an element declared twice, an array in place of a record, an
unknown member that no double can hold, and one partial rule. -/
def looseText : SyntaxText where
  abstract := "\x7b\"size\":1e999,\"relationships\":\x7b\"R\":\x7b\"target\":\"A\",\"source\":\"B\"\x7d\x7d," ++
    "\"elements\":\x7b\"B\":\x7b\x7d,\"A\":[[]],\"B\":\x7b\"properties\":[\x7b\"type\":\"T\",\"name\":\"p\"\x7d]\x7d\x7d\x7d"
  concrete := "[\x7b\"A\":\x7b\"height\":1e2,\"hue\":[]\x7d\x7d]"

/-- What the loose text denotes. -/
def loose : Model where
  elements := [⟨"B", 100, 50, [⟨"p", "T", "", [], ""⟩], .none⟩, ⟨"A", 100, 100, [], .none⟩]
  relationships := [⟨"R", none, none, "B", "A", [], .none⟩]
  restrictions := []

theorem toText_of_ofText_loose :
    ofText looseText = .ok loose ∧ loose.ReadsBack ∧ loose.toText ≠ .ok looseText ∧
      ∃ written, loose.toText = .ok written ∧ ofText written = .ok loose := by
  have hread : ofText looseText = .ok loose := by decide +kernel
  have hback : loose.ReadsBack := by decide +kernel
  obtain ⟨written, hwritten, -, hagain, -⟩ := toText_of_ofText hread
  refine ⟨hread, hback, ?_, written, hwritten, hagain.2 hback⟩
  decide +kernel

/-- A type of elements with a width that is not read back. -/
def measuredText : SyntaxText where
  abstract := "\x7b\"elements\":\x7b\"A\":\x7b\x7d\x7d\x7d"
  concrete := "\x7b\"elements\":\x7b\"A\":\x7b\"width\":51.2481783755054040\x7d\x7d\x7d"

/-- What the text denotes. -/
def measured : Model where
  elements := [⟨"A", 51.248178375505404, 50, [], .none⟩]
  relationships := []
  restrictions := []

lemma not_readsBack_measured : ¬ measured.ReadsBack := by decide +kernel

/-- Not every text that is read has a normal form that denotes the same definition, nor one that
stays the same when it is read and written once more. -/
theorem not_normal_once :
    (¬ ∀ {text : SyntaxText} {m : Model}, ofText text = .ok m →
      ∃ written, m.toText = .ok written ∧ ofText written = .ok m) ∧
    ¬ ∀ {text : SyntaxText} {m : Model}, ofText text = .ok m →
      ∃ written, m.toText = .ok written ∧ (ofText written).bind toText = .ok written := by
  have hmeasured : ofText measuredText = .ok measured := by decide +kernel
  obtain ⟨-, -, hfinite⟩ := exists_written hmeasured
  constructor
  · intro hall
    obtain ⟨written, hwritten, hread⟩ := hall hmeasured
    rw [ofText_toText hwritten hfinite, Except.ok.injEq, reread_eq_iff] at hread
    exact not_readsBack_measured hread
  · intro hall
    obtain ⟨written, hwritten, hagain⟩ := hall hmeasured
    obtain ⟨again, htext, -, hconcrete⟩ := exists_toText_reread hwritten hfinite
    rw [ofText_toText hwritten hfinite] at hagain
    obtain rfl : again = written := Except.ok.inj (htext.symm.trans hagain)
    exact not_readsBack_measured (hconcrete.1 rfl)

end Model

end Atelier

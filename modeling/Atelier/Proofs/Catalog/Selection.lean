/-
What can be selected from a catalog, and what a selection gives.

An entry is found by its number, a choice by the text of that number.  Whatever is asked of a
catalog, its choices are those of its entries, one by one (`Catalog.Paired`), so both find the same
entry.  What is given is the text of a value.  It denotes the value unless that is nested too deeply
for a text, or has a double that is not read back (`Json.GivenAs`).
-/
import Mathlib.Tactic.Common
import Atelier.Proofs.Catalog.Paging
import Atelier.Proofs.Decimal.Unsigned
import Atelier.Proofs.Json.Canonical
import Atelier.Proofs.Json.Decoded

namespace Atelier

/-! ## Documents -/

/-- What a value is given as: its text, which denotes it exactly if it is not nested too deeply and
all its doubles are read from their texts as they are. -/
structure Json.GivenAs (v : Json) (text : String) : Prop where
  text_eq : text = v.pretty
  denotes_iff : Json.parseCanonical text = some v ↔ Json.Legible Json.depthLimit v ∧ v.ReadsBack

/-- What the document of an entry is given as.  If the document is a text itself, what counts is
what that denotes, and if it denotes nothing it is given as it is. -/
inductive Entry.Given (e : Entry) : String → Prop where
  | value {text : String} (h : ∀ s, e.document ≠ .str s) (hgiven : e.document.GivenAs text) :
    Given e text
  | json {s text : String} {v : Json} (h : e.document = .str s)
      (hs : Json.parseCanonical s = some v) (hgiven : v.GivenAs text) : Given e text
  | plain {s : String} (h : e.document = .str s) (hs : Json.parseCanonical s = none) : Given e s

lemma Json.Canonical.givenAs {v : Json} (h : Json.Canonical v) : v.GivenAs v.pretty :=
  ⟨rfl, Json.parseCanonical_pretty_iff h⟩

lemma Entry.given_documentText {e : Entry} (h : Json.Canonical e.document) :
    e.Given e.documentText := by
  unfold documentText
  split
  · rename_i s hs
    cases hjson : Json.parseCanonical s with
    | none => exact .plain hs hjson
    | some v => exact .json hs hjson (Json.canonical_of_parseCanonical hjson).1.givenAs
  · rename_i hs
    exact .value hs h.givenAs

section

open Json

variable {room : ℕ} {v : Json} {e : Entry}

/-- A document stands below its entry, or is missing. -/
lemma Entry.canonical_of_ofJson? (hv : Bounded (room + 1) v) (h : Entry.ofJson? v = some e) :
    Json.Canonical e.document := by
  obtain ⟨fields, hfields, h⟩ := Option.bind_eq_some_iff.1 h
  obtain ⟨id, -, h⟩ := Option.bind_eq_some_iff.1 h
  obtain ⟨name, -, h⟩ := Option.bind_eq_some_iff.1 h
  obtain ⟨type, -, h⟩ := Option.bind_eq_some_iff.1 h
  obtain ⟨document, hdocument, h⟩ := Option.bind_eq_some_iff.1 h
  obtain rfl := Option.some.inj h
  rcases eq_or_exists_of_withDefault hv hfields hdocument with rfl | ⟨w, hw, hcanonical⟩
  · exact .null
  · exact (hw.canonical hcanonical).1

/-- The entries of a page are read from two levels below it. -/
lemma Envelope.canonical_of_parse? {body : String} {page : Envelope (List Entry)}
    (h : Envelope.parse? (list? Entry.ofJson?) body = some page) :
    ∀ e ∈ page.data.getD [], Json.Canonical e.document := by
  obtain ⟨v, hparse, h⟩ := Option.bind_eq_some_iff.1 h
  -- The page, its data and an entry are containers inside each other, of which 127 are allowed.
  have hv : Bounded (126 + 1) v := bounded_of_parse hparse
  obtain ⟨fields, hfields, h⟩ := Option.bind_eq_some_iff.1 h
  obtain ⟨data, hdata, h⟩ := Option.bind_eq_some_iff.1 h
  obtain ⟨total, -, h⟩ := Option.bind_eq_some_iff.1 h
  obtain ⟨code, -, h⟩ := Option.bind_eq_some_iff.1 h
  obtain ⟨message, -, h⟩ := Option.bind_eq_some_iff.1 h
  obtain rfl := Option.some.inj h
  intro e he
  rcases eq_or_exists_of_withDefault hv hfields hdata with rfl | ⟨w, hw, hread⟩
  · cases he
  · unfold optional? at hread
    split at hread
    · obtain rfl := Option.some.inj hread
      cases he
    · obtain ⟨items, hitems, rfl⟩ := Option.map_eq_some_iff.1 hread
      have hw : Bounded (125 + 1) w := hw
      obtain ⟨u, hu, hentry⟩ := exists_of_mem_list? hw hitems e he
      have hu : Bounded (124 + 1) u := hu
      exact Entry.canonical_of_ofJson? hu hentry

end

namespace Catalog

/-! ## Calls -/

/-- A call that brings in documents of which each object has each key once and in order.  A value
that is held has no others, and what is read from an answer is of that kind by itself. -/
def Call.Sound : Call → Prop
  | .ingest page => ∀ e ∈ page.data.getD [], Json.Canonical e.document
  | _ => True

/-- A catalog that comes about by calls. -/
inductive Reachable : Catalog → Prop where
  | new (pageSize : ℕ) : Reachable (.new pageSize)
  | turn {c : Catalog} {call : Call} (h : Reachable c) (hcall : call.Sound) :
    Reachable (c.turn call).1

/-- The choices are those of the entries, and the documents of the entries are canonical. -/
structure Paired (c : Catalog) : Prop where
  choices_eq : c.choices = c.entries.map Entry.choice
  canonical : ∀ e ∈ c.entries, Json.Canonical e.document

variable {c : Catalog} {call : Call}

lemma Call.Sound.canonical (hcall : call.Sound) {page : Envelope (List Entry)}
    (h : c.carried? call = some page) : ∀ e ∈ page.data.getD [], Json.Canonical e.document := by
  cases call with
  | ingest page' =>
    obtain rfl := Option.some.inj h
    exact hcall
  | loadNextPage fetch base =>
    obtain ⟨url, -, h⟩ := Option.bind_eq_some_iff.1 h
    obtain ⟨body, -, hpage⟩ := Option.bind_eq_some_iff.1 h
    exact Envelope.canonical_of_parse? hpage
  | setSearch | select => cases h

namespace Paired

/-- A page that comes in keeps them in step. -/
lemma extended (h : c.Paired) {page : Envelope (List Entry)}
    (hpage : ∀ e ∈ page.data.getD [], Json.Canonical e.document) : (c.extended page).Paired := by
  refine ⟨choices_extended_eq h.choices_eq page, fun e he => ?_⟩
  rcases List.mem_append.1 he with he | he
  · unfold kept at he
    split at he
    · cases he
    · exact h.canonical e he
  · exact hpage e he

/-- And whatever else a call comes to leaves both lists alone. -/
lemma step (h : c.Paired) (hcall : call.Sound) {r : Catalog × Except CatalogError Unit}
    (hstep : Step c call r) : r.1.Paired := by
  cases hstep with
  | searched search => exact ⟨h.choices_eq, h.canonical⟩
  | brought hpage => exact h.extended (hcall.canonical hpage)
  | chosen value selected => exact ⟨h.choices_eq, h.canonical⟩
  | failed => exact h

end Paired

lemma Reachable.paired (h : Reachable c) : c.Paired := by
  induction h with
  | new pageSize => exact ⟨rfl, by simp [Catalog.new]⟩
  | turn _ hcall ih => exact ih.step hcall (step_turn _ _)

/-! ## Selection -/

/-- A value names a number that an entry can have. -/
def Names (value : String) (id : ℕ) : Prop :=
  HoldsNatural value.toList id ∧ id < UInt64.size

/-- An entry that has a number, and no entry before it has it. -/
def FirstWith (c : Catalog) (id : ℕ) (e : Entry) : Prop :=
  e.id = id ∧ ∃ earlier later, c.entries = earlier ++ e :: later ∧ ∀ other ∈ earlier, other.id ≠ id

variable {id : ℕ} {e : Entry} {value text : String}

lemma names_iff : Names value id ↔ readUnsigned? UInt64.size (trim value.toList) = some id :=
  readUnsigned?_trim_iff.symm

lemma entry?_eq_some_iff : c.entry? id = some e ↔ c.FirstWith id e := by
  simp [FirstWith, entry?, List.find?_eq_some_iff_append]

lemma FirstWith.mem (h : c.FirstWith id e) : e ∈ c.entries := by
  obtain ⟨-, earlier, later, hentries, -⟩ := h
  rw [hentries]
  exact List.mem_append_right _ List.mem_cons_self

/-- If any entry has a number, one of them is the first. -/
lemma exists_firstWith (he : e ∈ c.entries) (hid : e.id = id) : ∃ e, c.FirstWith id e := by
  simp only [← entry?_eq_some_iff, ← Option.isSome_iff_exists, entry?, List.find?_isSome,
    decide_eq_true_eq]
  exact ⟨e, he, hid⟩

/-- The text of a number finds the choice of the entry that the number finds. -/
lemma Paired.find?_choices (h : c.Paired) (id : ℕ) :
    c.choices.find? (·.value = toString id) = (c.entry? id).map Entry.choice := by
  have hvalue : (fun choice : Choice => decide (choice.value = toString id)) ∘ Entry.choice =
      fun e : Entry => decide (e.id = id) :=
    funext fun e => decide_eq_decide.2 toString_inj
  rw [h.choices_eq, List.find?_map, hvalue, entry?]

lemma Paired.select_of_firstWith (h : c.Paired) (hvalue : Names value id)
    (he : c.FirstWith id e) :
    c.select value = ({ c with selected := some e.choice }, .ok e.documentText) := by
  have hfound : c.entry? id = some e := entry?_eq_some_iff.2 he
  rw [select, names_iff.1 hvalue, Option.bind_some, hfound]
  simp only
  rw [he.1, h.find?_choices, hfound, Option.map_some]

/-- Nothing is selected without a name. -/
lemma exists_of_select (h : (c.select value).2 = .ok text) :
    ∃ id e, Names value id ∧ c.FirstWith id e := by
  unfold select at h
  split at h
  · cases h
  · rename_i e hfound
    obtain ⟨id, hid, he⟩ := Option.bind_eq_some_iff.1 hfound
    exact ⟨id, e, names_iff.2 hid, entry?_eq_some_iff.1 he⟩

/-- Whatever has been asked of a catalog, a value selects if it names the number of an entry.  Of
several entries with that number, the first is selected and it is its document that is given.
Nothing else in the catalog changes. -/
theorem selects_first_entry (h : Reachable c) (value : String) :
    ((∃ text, (c.select value).2 = .ok text) ↔ ∃ e ∈ c.entries, Names value e.id) ∧
    ∀ text, (c.select value).2 = .ok text →
      ∃ id e, Names value id ∧ c.FirstWith id e ∧
        (c.select value).1 = { c with selected := some e.choice } ∧ e.Given text := by
  constructor
  · constructor
    · rintro ⟨text, htext⟩
      obtain ⟨id, e, hvalue, he⟩ := exists_of_select htext
      exact ⟨e, he.mem, he.1.symm ▸ hvalue⟩
    · rintro ⟨e, hmem, hvalue⟩
      obtain ⟨first, hfirst⟩ := exists_firstWith hmem rfl
      exact ⟨first.documentText, by rw [h.paired.select_of_firstWith hvalue hfirst]⟩
  · intro text htext
    obtain ⟨id, e, hvalue, he⟩ := exists_of_select htext
    have hselect := h.paired.select_of_firstWith hvalue he
    have hgiven := Entry.given_documentText (h.paired.canonical e he.mem)
    rw [hselect] at htext ⊢
    obtain rfl := Except.ok.inj htext
    exact ⟨id, e, hvalue, he, rfl, hgiven⟩

/-- A page on which two entries have the same number. -/
def twins : Envelope (List Entry) where
  data := some [⟨1, "a", "Petri", .null⟩, ⟨7, "b", "Petri", .str "[true]"⟩, ⟨7, "c", "ER", .null⟩]
  total := 3

theorem selects_first_entry_twins :
    let c := ((new 0).turn (.ingest twins)).1
    Reachable c ∧ (c.select " +007\n").1 = { c with selected := some ⟨"b: [Petri]", "7"⟩ } ∧
      ∃ text, (c.select " +007\n").2 = .ok text ∧
        Json.parseCanonical text = some (.arr [.bool true]) := by
  intro c
  have hsound : (Call.ingest twins).Sound := by
    intro e he
    simp only [twins, Option.getD_some, List.mem_cons, List.not_mem_nil, or_false] at he
    rcases he with rfl | rfl | rfl
    · exact .null
    · exact .str _
    · exact .null
  have hreachable : Reachable c := .turn (.new 0) hsound
  have hvalue : Names " +007\n" 7 := names_iff.2 rfl
  obtain ⟨hsucceeds, hgives⟩ := selects_first_entry hreachable " +007\n"
  have hlast : ⟨7, "c", "ER", .null⟩ ∈ c.entries := .tail _ (.tail _ (.head _))
  obtain ⟨text, htext⟩ := hsucceeds.2 ⟨_, hlast, hvalue⟩
  obtain ⟨id, e, hid, hfirst, hselected, hgiven⟩ := hgives text htext
  obtain rfl : id = 7 := Option.some.inj ((names_iff.1 hid).symm.trans (names_iff.1 hvalue))
  obtain rfl : e = ⟨7, "b", "Petri", .str "[true]"⟩ :=
    Option.some.inj ((entry?_eq_some_iff.2 hfirst).symm.trans rfl)
  refine ⟨hreachable, hselected, text, htext, ?_⟩
  have hjson : Json.parseCanonical "[true]" = some (.arr [.bool true]) := rfl
  cases hgiven with
  | value h => exact absurd rfl (h "[true]")
  | json h hs hgiven =>
    obtain rfl := Json.str.inj h
    obtain rfl := Option.some.inj (hs.symm.trans hjson)
    exact hgiven.denotes_iff.2 ⟨(Json.canonical_of_parseCanonical hjson).2, rfl⟩
  | plain h hs =>
    obtain rfl := Json.str.inj h
    rw [hjson] at hs
    cases hs

/-- A page with a document that is not read back. -/
def measured : Envelope (List Entry) where
  data := some [⟨1, "a", "Petri", .num (.float 51.248178375505404)⟩]
  total := 1

/-- Not every document is denoted by the text that is given for it. -/
theorem not_always_denoted :
    ¬ ∀ (c : Catalog) (value text : String) (id : ℕ) (e : Entry), Reachable c →
      (c.select value).2 = .ok text → Names value id → c.FirstWith id e →
        (∀ s, e.document ≠ .str s) → Json.parseCanonical text = some e.document := by
  intro hall
  have hsound : (Call.ingest measured).Sound := by
    intro e he
    obtain rfl := List.mem_singleton.1 he
    exact .num _
  have hreachable : Reachable ((new 0).turn (.ingest measured)).1 := .turn (.new 0) hsound
  have hvalue : Names "1" 1 := names_iff.2 rfl
  have hfirst : FirstWith ((new 0).turn (.ingest measured)).1 1
      ⟨1, "a", "Petri", .num (.float 51.248178375505404)⟩ := ⟨rfl, [], [], rfl, by simp⟩
  have hselect := hreachable.paired.select_of_firstWith hvalue hfirst
  have hdenoted := hall _ "1" _ 1 _ hreachable (congrArg Prod.snd hselect) hvalue hfirst
    (fun s hs => by cases hs)
  have hback := ((Json.parseCanonical_pretty_iff (.num _)).1 hdenoted).2
  exact Json.Number.rereadFloat_ne (Json.Number.float.inj (Json.num.inj hback))

end Catalog

end Atelier

/-
What a language contains and how it looks are written in separate documents.

Two definitions have the same abstract syntax exactly if they have the same content, however they
look, and the same concrete syntax if they look the same, whatever they contain.  In the other
direction the content comes from the abstract syntax alone: the concrete syntax decides neither
which types there are nor in what order they stand (`Model.documents_separate`).
-/
import Mathlib.Data.List.Forall2
import Atelier.Proofs.Language.NormalForm

namespace Atelier

/-! ## Content and looks -/

/-- Two types of elements with the same content. -/
structure Element.SameContent (e f : Element) : Prop where
  name : e.name = f.name
  properties : e.properties = f.properties

/-- Two types of elements that are drawn in the same way. -/
structure Element.SameLook (e f : Element) : Prop where
  name : e.name = f.name
  width : e.width = f.width
  height : e.height = f.height
  labelProperty : e.marking.labelProperty = f.marking.labelProperty
  labels : e.marking.labels = f.marking.labels
  styles : e.marking.styles = f.marking.styles

/-- Two types of relationships with the same content. -/
structure Relationship.SameContent (r q : Relationship) : Prop where
  name : r.name = q.name
  min : r.min = q.min
  max : r.max = q.max
  source : r.source = q.source
  target : r.target = q.target
  properties : r.properties = q.properties

/-- Two types of relationships that are drawn in the same way. -/
structure Relationship.SameLook (r q : Relationship) : Prop where
  name : r.name = q.name
  labelProperty : r.marking.labelProperty = q.marking.labelProperty
  labels : r.marking.labels = q.marking.labels
  styles : r.marking.styles = q.marking.styles

namespace Model

/-- Two definitions with the same content, in the same order. -/
structure SameContent (m n : Model) : Prop where
  elements : List.Forall₂ Element.SameContent m.elements n.elements
  relationships : List.Forall₂ Relationship.SameContent m.relationships n.relationships
  restrictions : m.restrictions = n.restrictions

/-- Two definitions that look the same, with their types in the same order. -/
structure SameLook (m n : Model) : Prop where
  elements : List.Forall₂ Element.SameLook m.elements n.elements
  relationships : List.Forall₂ Relationship.SameLook m.relationships n.relationships

end Model

/-! ## Entries of the documents -/

/-- Lists agree in a part of their items exactly if the lists of the parts are the same. -/
lemma forall₂_iff_map_eq {β γ : Type} {R : β → β → Prop} {part : β → γ}
    (h : ∀ b c, R b c ↔ part b = part c) {l k : List β} :
    List.Forall₂ R l k ↔ l.map part = k.map part := by
  have hR : R = fun b c => part b = part c := by
    ext b c
    exact h b c
  rw [← List.forall₂_eq_eq_eq, List.forall₂_map_left_iff, List.forall₂_map_right_iff, hR]

lemma Element.sameContent_iff (e f : Element) :
    e.SameContent f ↔ (e.name, e.properties) = (f.name, f.properties) := by
  rw [Prod.mk.injEq]
  exact ⟨fun h => ⟨h.name, h.properties⟩, fun ⟨hname, hproperties⟩ => ⟨hname, hproperties⟩⟩

lemma Element.sameLook_iff (e f : Element) :
    e.SameLook f ↔ (e.name, e.rule) = (f.name, f.rule) := by
  constructor
  · rintro ⟨hname, hwidth, hheight, hproperty, hlabels, hstyles⟩
    have hmarking : e.marking = f.marking := by
      rw [Marking.mk.injEq]
      exact ⟨hproperty, hlabels, hstyles⟩
    rw [rule, rule, hname, hwidth, hheight, hmarking]
  · intro h
    obtain ⟨hname, hrule⟩ := Prod.mk.inj h
    obtain ⟨hwidth, hheight, hmarking⟩ := ElementRule.mk.inj hrule
    exact ⟨hname, hwidth, hheight, by rw [hmarking], by rw [hmarking], by rw [hmarking]⟩

lemma Relationship.sameContent_iff (r q : Relationship) :
    r.SameContent q ↔ (r.name, r.declaration) = (q.name, q.declaration) := by
  constructor
  · rintro ⟨hname, hmin, hmax, hsource, htarget, hproperties⟩
    rw [declaration, declaration, hname, hmin, hmax, hsource, htarget, hproperties]
  · intro h
    obtain ⟨hname, hdeclaration⟩ := Prod.mk.inj h
    obtain ⟨hmin, hmax, hsource, htarget, hproperties⟩ := Declaration.mk.inj hdeclaration
    exact ⟨hname, hmin, hmax, hsource, htarget, hproperties⟩

lemma Relationship.sameLook_iff (r q : Relationship) :
    r.SameLook q ↔ (r.name, r.marking) = (q.name, q.marking) := by
  constructor
  · rintro ⟨hname, hproperty, hlabels, hstyles⟩
    have hmarking : r.marking = q.marking := by
      rw [Marking.mk.injEq]
      exact ⟨hproperty, hlabels, hstyles⟩
    rw [hname, hmarking]
  · intro h
    obtain ⟨hname, hmarking⟩ := Prod.mk.inj h
    exact ⟨hname, by rw [hmarking], by rw [hmarking], by rw [hmarking]⟩

namespace Model

variable {m n : Model} {s t : SyntaxText}

lemma sameContent_iff : m.SameContent n ↔
    (m.elements.map fun e => (e.name, e.properties)) =
        n.elements.map (fun e => (e.name, e.properties)) ∧
      (m.relationships.map fun r => (r.name, r.declaration)) =
        n.relationships.map (fun r => (r.name, r.declaration)) ∧
      m.restrictions = n.restrictions := by
  rw [← forall₂_iff_map_eq Element.sameContent_iff,
    ← forall₂_iff_map_eq Relationship.sameContent_iff]
  exact ⟨fun ⟨he, hr, hrestrictions⟩ => ⟨he, hr, hrestrictions⟩,
    fun ⟨he, hr, hrestrictions⟩ => ⟨he, hr, hrestrictions⟩⟩

lemma sameLook_iff : m.SameLook n ↔
    (m.elements.map fun e => (e.name, e.rule)) = n.elements.map (fun e => (e.name, e.rule)) ∧
      (m.relationships.map fun r => (r.name, r.marking)) =
        n.relationships.map (fun r => (r.name, r.marking)) := by
  rw [← forall₂_iff_map_eq Element.sameLook_iff, ← forall₂_iff_map_eq Relationship.sameLook_iff]
  exact ⟨fun ⟨he, hr⟩ => ⟨he, hr⟩, fun ⟨he, hr⟩ => ⟨he, hr⟩⟩

/-! ## One document of two definitions -/

/-- Definitions in which no name is declared twice have the same declarations exactly if they have
the same content. -/
lemma abstractSyntax_eq_iff (hm : m.fault? = none) (hn : n.fault? = none) :
    m.abstractSyntax = n.abstractSyntax ↔ m.SameContent n := by
  obtain ⟨hme, hmr, -⟩ := fault?_eq_none_iff.1 hm
  obtain ⟨hne, hnr, -⟩ := fault?_eq_none_iff.1 hn
  rw [AbstractSyntax.mk.injEq, sameContent_iff]
  exact and_congr (Table.ofList_map_inj _ _ hme hne)
    (and_congr (Table.ofList_map_inj _ _ hmr hnr) Iff.rfl)

/-- They have the same rules exactly if they look the same. -/
lemma concreteSyntax_eq_iff (hm : m.fault? = none) (hn : n.fault? = none) :
    m.concreteSyntax = n.concreteSyntax ↔ m.SameLook n := by
  obtain ⟨hme, hmr, -⟩ := fault?_eq_none_iff.1 hm
  obtain ⟨hne, hnr, -⟩ := fault?_eq_none_iff.1 hn
  rw [ConcreteSyntax.mk.injEq, sameLook_iff]
  exact and_congr (Table.ofList_map_inj _ _ hme hne)
    (Table.ofList_map_inj _ _ hmr hnr)

/-- The abstract document says what the definition contains, and nothing else. -/
lemma abstract_eq_iff (hs : m.toText = .ok s) (ht : n.toText = .ok t) :
    s.abstract = t.abstract ↔ m.SameContent n := by
  obtain ⟨hm, rfl⟩ := toText_eq_ok_iff.1 hs
  obtain ⟨hn, rfl⟩ := toText_eq_ok_iff.1 ht
  rw [AbstractSyntax.pretty_inj, abstractSyntax_eq_iff hm hn]

/-- The concrete document says no more than how the definition looks. -/
lemma concrete_eq_of_sameLook (hs : m.toText = .ok s) (ht : n.toText = .ok t)
    (h : m.SameLook n) : s.concrete = t.concrete := by
  obtain ⟨hm, rfl⟩ := toText_eq_ok_iff.1 hs
  obtain ⟨hn, rfl⟩ := toText_eq_ok_iff.1 ht
  show m.concreteSyntax.toJson.pretty = n.concreteSyntax.toJson.pretty
  rw [(concreteSyntax_eq_iff hm hn).2 h]

/-- It says all of it if the measures are finite: all others have the same text. -/
lemma sameLook_of_concrete_eq (hs : m.toText = .ok s) (ht : n.toText = .ok t)
    (hmfinite : ∀ e ∈ m.elements, e.width.isFinite ∧ e.height.isFinite)
    (hnfinite : ∀ e ∈ n.elements, e.width.isFinite ∧ e.height.isFinite)
    (h : s.concrete = t.concrete) : m.SameLook n := by
  obtain ⟨hm, rfl⟩ := toText_eq_ok_iff.1 hs
  obtain ⟨hn, rfl⟩ := toText_eq_ok_iff.1 ht
  have hmrules := isFinite_of_mem_rules (fault?_eq_none_iff.1 hm).1 hmfinite
  have hnrules := isFinite_of_mem_rules (fault?_eq_none_iff.1 hn).1 hnfinite
  exact (concreteSyntax_eq_iff hm hn).1 ((ConcreteSyntax.pretty_inj hmrules hnrules).1 h)

/-! ## One abstract document with two concrete ones -/

/-- What a definition is put together from decides its content. -/
lemma sameContent_ofSyntax (a : AbstractSyntax) (c d : ConcreteSyntax) :
    (ofSyntax a c).SameContent (ofSyntax a d) := by
  rw [sameContent_iff]
  simp [ofSyntax, Element.ofParts, Relationship.ofParts, Relationship.declaration]

lemma sameContent_of_ofText {abstract c d : String} (hm : ofText ⟨abstract, c⟩ = .ok m)
    (hn : ofText ⟨abstract, d⟩ = .ok n) : m.SameContent n := by
  obtain ⟨a, c, ha, -, -, -, rfl⟩ := ofText_eq_ok_iff.1 hm
  obtain ⟨b, d, hb, -, -, -, rfl⟩ := ofText_eq_ok_iff.1 hn
  -- The abstract document is read once for both.
  obtain rfl := Except.ok.inj (ha.symm.trans hb)
  exact sameContent_ofSyntax a c d

/-- The two documents are separate.  Of two definitions that have a textual form the abstract
documents are the same exactly if the definitions have the same content, and the concrete ones if
they look the same; if all measures are finite, only then.  Two definitions that are read with the
same abstract document have the same content, whatever the concrete documents are. -/
theorem documents_separate :
    (∀ {m n : Model} {s t : SyntaxText}, m.toText = .ok s → n.toText = .ok t →
      (s.abstract = t.abstract ↔ m.SameContent n) ∧
      (m.SameLook n → s.concrete = t.concrete) ∧
      ((∀ e ∈ m.elements ++ n.elements, e.width.isFinite ∧ e.height.isFinite) →
        s.concrete = t.concrete → m.SameLook n)) ∧
    ∀ {abstract c d : String} {m n : Model}, ofText ⟨abstract, c⟩ = .ok m →
      ofText ⟨abstract, d⟩ = .ok n → m.SameContent n := by
  constructor
  · intro m n s t hs ht
    refine ⟨abstract_eq_iff hs ht, concrete_eq_of_sameLook hs ht, fun hfinite => ?_⟩
    refine sameLook_of_concrete_eq hs ht (fun e he => hfinite e ?_) fun e he => hfinite e ?_
    · exact List.mem_append_left _ he
    · exact List.mem_append_right _ he
  · intro abstract c d m n hm hn
    exact sameContent_of_ofText hm hn

/-- A language with the content of another one and other measures. -/
def abFlowWide : Model :=
  { abFlow with elements := abFlow.elements.map fun e => { e with width := 300 } }

/-- A language with the looks of another one, and without its properties and restrictions. -/
def abFlowBare : Model :=
  { abFlow with
    elements := abFlow.elements.map fun e => { e with properties := [] }
    restrictions := [] }

/-- One type of relationships, from a type of elements to itself. -/
def loopText : String :=
  "\x7b\"elements\":\x7b\"B\":\x7b\x7d,\"A\":\x7b\x7d\x7d," ++
    "\"relationships\":\x7b\"R\":\x7b\"source\":\"A\",\"target\":\"A\"\x7d\x7d\x7d"

/-- How it looks.  The type of elements that is declared last comes first. -/
def loopLook : String :=
  "\x7b\"elements\":\x7b\"A\":\x7b\"width\":1\x7d,\"B\":\x7b\x7d\x7d\x7d"

theorem documents_separate_abFlow :
    (∃ s t u, abFlow.toText = .ok s ∧ abFlowWide.toText = .ok t ∧ abFlowBare.toText = .ok u ∧
      (s.abstract = t.abstract ∧ s.concrete ≠ t.concrete) ∧
      s.concrete = u.concrete ∧ s.abstract ≠ u.abstract) ∧
    ∃ m n, ofText ⟨loopText, loopLook⟩ = .ok m ∧
      ofText ⟨loopText, " "⟩ = .ok n ∧ m ≠ n ∧ m.SameContent n := by
  obtain ⟨s, hs⟩ : ∃ s, abFlow.toText = .ok s := ⟨_, toText_of_fault? (by decide +kernel)⟩
  obtain ⟨t, ht⟩ : ∃ t, abFlowWide.toText = .ok t := ⟨_, toText_of_fault? (by decide +kernel)⟩
  obtain ⟨u, hu⟩ : ∃ u, abFlowBare.toText = .ok u := ⟨_, toText_of_fault? (by decide +kernel)⟩
  constructor
  · have hwide := documents_separate.1 hs ht
    have hbare := documents_separate.1 hs hu
    refine ⟨s, t, u, hs, ht, hu, ⟨?_, fun h => ?_⟩, ?_, fun h => ?_⟩
    · exact hwide.1.2 (sameContent_iff.2 (by simp [abFlowWide, Function.comp_def]))
    · have hlook := hwide.2.2 (by decide +kernel) h
      cases hlook.elements with
      | cons hfirst _ => exact absurd hfirst.width (by decide +kernel)
    · exact hbare.2.1 (sameLook_iff.2 (by simp [abFlowBare, Element.rule, Function.comp_def]))
    · cases (hbare.1.1 h).restrictions
  · have hread : ofText ⟨loopText, loopLook⟩ =
        .ok ⟨[⟨"B", 100, 50, [], .none⟩, ⟨"A", 1, 50, [], .none⟩],
          [⟨"R", none, none, "A", "A", [], .none⟩], []⟩ := by decide +kernel
    have hblank : ofText ⟨loopText, " "⟩ =
        .ok ⟨[⟨"B", 100, 50, [], .none⟩, ⟨"A", 100, 50, [], .none⟩],
          [⟨"R", none, none, "A", "A", [], .none⟩], []⟩ := by decide +kernel
    exact ⟨_, _, hread, hblank, by decide +kernel, documents_separate.2 hread hblank⟩

end Model

end Atelier

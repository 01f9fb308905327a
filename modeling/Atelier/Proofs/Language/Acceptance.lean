/-
Which language definitions are accepted, and what is reported of the others.

A definition is well formed if no name is declared twice and everything it refers to is declared
(`Model.WellFormed`).  Exactly the well-formed definitions have a textual form, and of any other
one the first thing is reported that is wrong with it (`Model.FirstFault`).  In the other direction
two texts are accepted exactly if they can be read, the definition that they denote is well formed,
and the second gives rules for declared types only.
-/
import Atelier.Proofs.Language.NormalForm

namespace Atelier

/-! ## Repeated names -/

namespace Model

variable {m : Model} {name : String} {e : SyntaxError}

/-! ## Well-formed definitions -/

/-- The definition has a type of elements with the name. -/
def Declares (m : Model) (name : String) : Prop :=
  name ∈ m.elements.map (·.name)

/-- The definition has a type of relationships with the name. -/
def DeclaresRelationship (m : Model) (name : String) : Prop :=
  name ∈ m.relationships.map (·.name)

/-- The types of elements that a definition refers to, in the order in which they are checked, each
with what is reported if it is not declared: the source and the target of one relationship after
the other, then the types of one restriction after the other. -/
def references (m : Model) : List (String × SyntaxError) :=
  (m.relationships.flatMap fun r =>
    [r.source, r.target].map fun name => (name, .unknownEndpoint r.name name)) ++
  m.restrictions.flatMap fun r =>
    r.elementNames.map fun name => (name, .unknownRestrictionElement r.kind name)

variable {a : AbstractSyntax} {c : ConcreteSyntax}

/-- The rules are for types that the definition declares. -/
structure RulesDeclared (m : Model) (c : ConcreteSyntax) : Prop where
  elements : ∀ name ∈ c.elements.names, m.Declares name
  relationships : ∀ name ∈ c.relationships.names, m.DeclaresRelationship name

lemma declares_ofSyntax_iff : (ofSyntax a c).Declares name ↔ name ∈ a.elements.names := by
  rw [Declares, ofSyntax, List.map_map]
  rfl

lemma declaresRelationship_ofSyntax_iff :
    (ofSyntax a c).DeclaresRelationship name ↔ name ∈ a.relationships.names := by
  rw [DeclaresRelationship, ofSyntax, List.map_map]
  rfl

lemma rulesDeclared_ofSyntax_iff {rules : ConcreteSyntax} :
    (ofSyntax a c).RulesDeclared rules ↔ rules.undeclared? a = none := by
  have hrules : rules.undeclared? a = none ↔
      (∀ name ∈ rules.elements.names, name ∈ a.elements.names) ∧
        ∀ name ∈ rules.relationships.names, name ∈ a.relationships.names := by
    simp [ConcreteSyntax.undeclared?, Table.contains]
  rw [hrules]
  constructor
  · intro h
    exact ⟨fun name hname => declares_ofSyntax_iff.1 (h.elements name hname),
      fun name hname => declaresRelationship_ofSyntax_iff.1 (h.relationships name hname)⟩
  · rintro ⟨h, h'⟩
    exact ⟨fun name hname => declares_ofSyntax_iff.2 (h name hname),
      fun name hname => declaresRelationship_ofSyntax_iff.2 (h' name hname)⟩

end Model

end Atelier

/-
A session with a semantics that can be used.

A stored text is used if it has all core keys.  Any other text gives way to that of the first
document of the language, which the types of the language determine.  That document is regular
(`regular_of_initial`): it is read back from its text, and its text can be used.  So what is
prepared stays as it is (`Session.prepare_settles`).
-/
import Atelier.Proofs.Semantics.Text

namespace Atelier

namespace Semantics

/-- A text that can be used: it denotes an object that has all core keys. -/
def Usable (text : String) : Prop :=
  ∃ members, Json.parseCanonical text = some (.obj members) ∧
    ∀ key ∈ coreKeys, ∃ v, Json.get? key members = some v

lemma usable_iff {text : String} : Usable text ↔ ∃ members, core text = .ok members :=
  exists_congr fun _ => core_eq_ok_iff.symm

lemma usable_text (d : Semantics) : Usable d.text := by
  obtain ⟨members, hcore, -⟩ := d.exists_core_text
  exact usable_iff.2 ⟨members, hcore⟩

/-! ## The first document of a language -/

variable {elements : List Element} {relationships : List Relationship}

lemma initial_nil : initial [] [] = .error .noLanguageDefinition := rfl

/-- A language with types has a first document. -/
lemma exists_initial (h : ¬ (elements = [] ∧ relationships = [])) :
    ∃ d, initial elements relationships = .ok d := by
  have hempty : (elements.isEmpty && relationships.isEmpty) = false := by
    rw [← Bool.not_eq_true, Bool.and_eq_true, List.isEmpty_iff, List.isEmpty_iff]
    exact h
  rw [initial, hempty]
  exact ⟨_, rfl⟩

lemma eq_of_initial {d : Semantics} (h : initial elements relationships = .ok d) :
    d = { elementTypes := distinct (elements.map (·.name))
          relationTypes := distinct (relationTypesOf relationships)
          typingRelationTypes := ["IndividualCardinality"]
          relationPropertySchema := Table.empty.insert "type" ⟨"value", 0⟩ } := by
  unfold initial at h
  split at h
  · cases h
  · exact (Except.ok.inj h).symm

/-- The first document has no rules, and one place for the types of relations. -/
lemma regular_of_initial {d : Semantics} (h : initial elements relationships = .ok d) :
    d.Regular := by
  obtain rfl := eq_of_initial h
  exact ⟨Table.inOrder_empty, Table.inOrder_empty, Table.inOrder_empty,
    Table.inOrder_insert_empty _ _⟩

end Semantics

namespace Session

open Semantics (Usable)

variable {s : Session} {d : Semantics}

/-- A text that can be used is kept. -/
lemma prepare_of_usable (h : Usable s.semantics) : s.prepare = (s, .ok (.current s.semantics)) := by
  obtain ⟨members, hcore⟩ := Semantics.usable_iff.1 h
  rw [prepare, hcore]

/-- A text that cannot be used gives way to the first document of the language, if there is
one. -/
lemma prepare_of_not_usable (h : ¬ Usable s.semantics) :
    s.prepare = match Semantics.initial s.model.elements s.model.relationships with
      | .ok d => ({ s with semantics := d.text }, .ok d)
      | .error e => (s, .error e) := by
  unfold prepare
  cases hcore : Semantics.core s.semantics with
  | ok members => exact absurd (Semantics.usable_iff.2 ⟨members, hcore⟩) h
  | error e => rfl

/-- A session that holds the text of a regular document is prepared. -/
lemma prepare_text (h : d.Regular) :
    { s with semantics := d.text }.prepare = ({ s with semantics := d.text }, .ok d) := by
  have husable : Usable { s with semantics := d.text }.semantics := d.usable_text
  rw [prepare_of_usable husable]
  show ({ s with semantics := d.text }, Except.ok (Semantics.current d.text)) = _
  rw [Semantics.current_text h]

lemma ne_error_of_prepare {s' : Session} (h : s.prepare = (s', .ok d)) (e : SemanticsError) :
    s.prepare ≠ (s, .error e) := by
  intro herror
  cases congrArg Prod.snd (h.symm.trans herror)

/-- Preparing a session fails, and leaves it as it was, exactly if its text cannot be used and its
language has no types.  Otherwise it changes nothing but the text of the semantics: a text that
can be used stays, and any other gives way to that of the first document of the language.  The
document it returns is the one that a reader sees in the text that is then stored, and preparing
the session again returns it again and changes nothing. -/
theorem prepare_settles (s : Session) :
    (s.prepare = (s, .error .noLanguageDefinition) ↔
      ¬ Usable s.semantics ∧ s.model.elements = [] ∧ s.model.relationships = []) ∧
    (s.prepare = (s, .error .noLanguageDefinition) ∨
      ∃ text d, s.prepare = ({ s with semantics := text }, .ok d) ∧
        (Usable s.semantics → text = s.semantics) ∧
        (¬ Usable s.semantics →
          Semantics.initial s.model.elements s.model.relationships = .ok d) ∧
        Usable text ∧ Semantics.current text = d ∧
        { s with semantics := text }.prepare = ({ s with semantics := text }, .ok d)) := by
  by_cases husable : Usable s.semantics
  · have hprepare := prepare_of_usable husable
    have hne := ne_error_of_prepare hprepare .noLanguageDefinition
    exact ⟨⟨fun herror => absurd herror hne, fun h => absurd husable h.1⟩,
      .inr ⟨s.semantics, _, hprepare, fun _ => rfl, absurd husable, husable, rfl, hprepare⟩⟩
  · have hprepare := prepare_of_not_usable husable
    by_cases htypes : s.model.elements = [] ∧ s.model.relationships = []
    · rw [htypes.1, htypes.2, Semantics.initial_nil] at hprepare
      exact ⟨⟨fun _ => ⟨husable, htypes⟩, fun _ => hprepare⟩, .inl hprepare⟩
    · obtain ⟨d, hd⟩ := Semantics.exists_initial htypes
      have hregular := Semantics.regular_of_initial hd
      rw [hd] at hprepare
      have hne := ne_error_of_prepare hprepare .noLanguageDefinition
      exact ⟨⟨fun herror => absurd herror hne, fun h => absurd h.2 htypes⟩,
        .inr ⟨d.text, d, hprepare, fun h => absurd h husable, fun _ => hd, d.usable_text,
          Semantics.current_text hregular, prepare_text hregular⟩⟩

/-- A language without types whose text can be used. -/
def terse : Session :=
  { semantics := Semantics.terseText }

theorem prepare_settles_terse :
    Usable terse.semantics ∧ terse.prepare = (terse, .ok (.current Semantics.terseText)) ∧
      ¬ Usable "" ∧ ({} : Session).prepare = ({}, .error .noLanguageDefinition) := by
  obtain ⟨d, hd⟩ := Semantics.exists_parse_terseText
  obtain ⟨members, hcore, -⟩ := Semantics.parse_eq_ok_iff.1 hd
  have husable : Usable terse.semantics := Semantics.usable_iff.2 ⟨members, hcore⟩
  have hblank : ¬ Usable "" := by
    rintro ⟨members, hparsed, -⟩
    have hnone : Json.parseCanonical "" = none := by decide +kernel
    rw [hnone] at hparsed
    cases hparsed
  refine ⟨husable, ?_, hblank, (prepare_settles {}).1.2 ⟨hblank, rfl, rfl⟩⟩
  obtain ⟨hfails, herror | ⟨text, d, hprepare, hkeep, -, -, hcurrent, -⟩⟩ := prepare_settles terse
  · exact absurd husable (hfails.1 herror).1
  · obtain rfl := hkeep husable
    rw [hprepare, ← hcurrent]
    rfl

end Session

end Atelier

/-
Edits one after the other.

The first edit fills the stored object with the defaults of a document, and a second one finds
nothing left to fill (`withDefaults_edited`).  So what two edits leave is known key by key: each
sets its own key, and of two edits of one key the second starts from the value of the first.
Members in order are known by what is found under their keys, and with them the text
(`edits_commute`).  The second edit reads what the first has written, and so it leaves the doubles
that are read again.
-/
import Mathlib.Tactic.Common
import Atelier.Proofs.Json.Distinct
import Atelier.Proofs.Semantics.View

namespace Atelier

namespace SemanticsEdit

/-- The name of the rule that an edit sets. -/
def name? : SemanticsEdit → Option String
  | elementTypes _ | relationTypes _ | attributeTypes _ => none
  | elementRule name _ | relationRule name _ | attributeRule name _ => some name

/-- The edits have different keys, or set rules with different names. -/
def Apart (e e' : SemanticsEdit) : Prop :=
  e.key ≠ e'.key ∨ ∃ name name', e.name? = some name ∧ e'.name? = some name' ∧ name ≠ name'

/-! ## The value of one key -/

/-- A list is set whatever was stored. -/
lemma change_of_name?_eq_none {e : SemanticsEdit} (h : e.name? = none) (stored stored' : Json) :
    e.change stored = e.change stored' := by
  cases e with
  | elementTypes | relationTypes | attributeTypes => rfl
  | elementRule | relationRule | attributeRule => cases h

lemma exists_change_eq_insertRule {e : SemanticsEdit} {name : String} (h : e.name? = some name) :
    ∃ rule, ∀ stored, e.change stored = insertRule name rule stored := by
  cases e with
  | elementTypes | relationTypes | attributeTypes => cases h
  | elementRule _ rule | relationRule _ rule | attributeRule _ rule =>
    obtain rfl := Option.some.inj h
    exact ⟨rule.fields, fun _ => rfl⟩

/-- Rules with different names can be set in either order. -/
lemma change_comm {e e' : SemanticsEdit} {name name' : String} (h : e.name? = some name)
    (h' : e'.name? = some name') (hne : name ≠ name') {stored : Json}
    (hstored : Json.Canonical stored) :
    e'.change (e.change stored) = e.change (e'.change stored) := by
  obtain ⟨rule, hrule⟩ := exists_change_eq_insertRule h
  obtain ⟨rule', hrule'⟩ := exists_change_eq_insertRule h'
  rw [hrule, hrule', hrule', hrule]
  exact congrArg Json.obj (hstored.sorted_members?.set_comm hne.symm _ _)

/-- Of two edits with one key and one name the second counts. -/
lemma change_change {e e' : SemanticsEdit} (h : e.name? = e'.name?) {stored : Json}
    (hstored : Json.Canonical stored) : e'.change (e.change stored) = e'.change stored := by
  cases hname : e'.name? with
  | none => exact change_of_name?_eq_none hname _ _
  | some name =>
    obtain ⟨rule, hrule⟩ := exists_change_eq_insertRule (h.trans hname)
    obtain ⟨rule', hrule'⟩ := exists_change_eq_insertRule hname
    rw [hrule, hrule', hrule']
    exact congrArg Json.obj (hstored.sorted_members?.set_set name _ _)

/-! ## All keys -/

lemma get?_edited (e : SemanticsEdit) (text key : String) :
    Json.get? key (e.edited text) =
      if key = e.key then some (e.change (e.before text))
      else Json.get? key (withDefaults (storedMembers text)) := by
  rw [edited, Json.get?_set]

/-- After an edit no key of a document is missing. -/
lemma withDefaults_edited (e : SemanticsEdit) (text : String) :
    withDefaults (e.edited text) = e.edited text := by
  have hkept := e.kept_edited text
  refine (kept_withDefaults hkept).sorted.ext hkept.sorted fun key => ?_
  rw [get?_withDefaults, get?_edited]
  split
  · rfl
  · rw [get?_withDefaults, Option.or_assoc, Option.or_self]

lemma withDefaults_reread_edited (e : SemanticsEdit) (text : String) :
    withDefaults (Json.rereadMembers (e.edited text)) = Json.rereadMembers (e.edited text) := by
  rw [← rereadMembers_withDefaults (e.kept_edited text), withDefaults_edited]

/-- What a second edit finds under its key. -/
lemma before_apply (e e' : SemanticsEdit) (text : String) :
    e'.before (e.apply text) =
      if e'.key = e.key then e.change (e.before text).reread else (e'.before text).reread := by
  rw [before, storedMembers_apply, withDefaults_reread_edited, get?_reread_edited]
  split
  · rfl
  · rw [before]
    cases Json.get? e'.key (withDefaults (storedMembers text)) <;> rfl

/-- What is found under each key after two edits. -/
lemma get?_edited_apply (e e' : SemanticsEdit) (text key : String) :
    Json.get? key (e'.edited (e.apply text)) =
      if key = e'.key then some (e'.change (e'.before (e.apply text)))
      else Json.get? key (Json.rereadMembers (e.edited text)) := by
  rw [get?_edited, storedMembers_apply, withDefaults_reread_edited]

lemma before_eq_of_key_eq {e e' : SemanticsEdit} (h : e.key = e'.key) (text : String) :
    e.before text = e'.before text := by
  rw [before, before, h]

lemma apply_eq_pretty (e : SemanticsEdit) (text : String) :
    e.apply text = (Json.obj (e.edited text)).pretty := rfl

/-- Edits that are apart leave the same members in either order. -/
lemma edited_comm {e e' : SemanticsEdit} (h : e.Apart e') (text : String) :
    e'.edited (e.apply text) = e.edited (e'.apply text) := by
  refine (e'.kept_edited _).sorted.ext (e.kept_edited _).sorted fun key => ?_
  rw [get?_edited_apply, get?_edited_apply, before_apply, before_apply, get?_reread_edited,
    get?_reread_edited]
  by_cases hkey : e.key = e'.key
  · -- Both edits set rules of one table.
    obtain ⟨name, name', hname, hname', hne⟩ := h.resolve_left (absurd hkey)
    have hcomm := change_comm hname hname' hne (e.kept_before text).1.reread
    rw [if_pos hkey.symm, if_pos hkey, ← before_eq_of_key_eq hkey text, ← hkey, hcomm]
    split <;> rfl
  · rw [if_neg (Ne.symm hkey), if_neg hkey]
    by_cases hfirst : key = e.key
    · have hsecond : key ≠ e'.key := fun heq => hkey (hfirst.symm.trans heq)
      rw [if_neg hsecond, if_pos hfirst, if_pos hfirst]
    · rw [if_neg hfirst, if_neg hfirst]

/-- Of two edits with one key and one name the first leaves nothing, but the second reads again
what it has written. -/
lemma edited_override {e e' : SemanticsEdit} (hkey : e.key = e'.key) (hname : e.name? = e'.name?)
    (text : String) : e'.edited (e.apply text) = Json.rereadMembers (e'.edited text) := by
  refine (e'.kept_edited _).sorted.ext (e'.kept_edited _).sorted.reread fun key => ?_
  rw [get?_edited_apply, before_apply, if_pos hkey.symm, get?_reread_edited, get?_reread_edited,
    ← hkey, change_change hname (e.kept_before text).1.reread, before_eq_of_key_eq hkey text]
  split <;> rfl

/-- Two such edits leave the text of the second alone, exactly if what the second writes is read
back as it is. -/
lemma apply_apply_eq_iff {e e' : SemanticsEdit} (hkey : e.key = e'.key)
    (hname : e.name? = e'.name?) (text : String) :
    e'.apply (e.apply text) = e'.apply text ↔ (Json.obj (e'.edited text)).ReadsBack := by
  have hlegible := (e'.kept_edited text).legible_obj
  have htwice : e'.apply (e.apply text) = (Json.obj (e'.edited text)).reread.pretty := by
    rw [apply_eq_pretty, edited_override hkey hname, Json.reread]
  rw [htwice, apply_eq_pretty e']
  constructor
  · exact Json.pretty_inj hlegible.reread hlegible
  · intro hback
    rw [hback]

end SemanticsEdit

namespace Session

lemma edit_edit (s : Session) (e e' : SemanticsEdit) :
    (s.edit e).edit e' = { s with semantics := e'.apply (e.apply s.semantics) } := by
  simp only [edit]

lemma edit_edit_eq_iff (s : Session) {e e' : SemanticsEdit} (hkey : e.key = e'.key)
    (hname : e.name? = e'.name?) :
    (s.edit e).edit e' = s.edit e' ↔ (Json.obj (e'.edited s.semantics)).ReadsBack := by
  rw [← SemanticsEdit.apply_apply_eq_iff hkey hname, edit_edit, edit]
  constructor
  · intro h
    exact (Session.mk.inj h).2.2.2.1
  · intro h
    rw [h]

/-- Edits of different keys, or of rules with different names, give the same session in either
order.  An edit that is made twice is made once exactly if the members that it leaves are read
back as they are written, and so it is with two edits of one list, or of one rule, and the second
alone.  Sessions are the same if their texts are, character by character, whatever was stored
before. -/
theorem edits_commute (s : Session) :
    (∀ e e' : SemanticsEdit, e.Apart e' → (s.edit e).edit e' = (s.edit e').edit e) ∧
    (∀ e : SemanticsEdit,
      (s.edit e).edit e = s.edit e ↔ (Json.obj (e.edited s.semantics)).ReadsBack) ∧
    ∀ e e' : SemanticsEdit, e.key = e'.key → e.name? = e'.name? →
      ((s.edit e).edit e' = s.edit e' ↔ (Json.obj (e'.edited s.semantics)).ReadsBack) := by
  refine ⟨fun e e' h => ?_, fun e => s.edit_edit_eq_iff rfl rfl,
    fun _ _ hkey hname => s.edit_edit_eq_iff hkey hname⟩
  rw [edit_edit, edit_edit, SemanticsEdit.apply_eq_pretty e', SemanticsEdit.edited_comm h,
    SemanticsEdit.apply_eq_pretty e]

/-- The rules of elements are stored as a number. -/
def numbered : Session :=
  { semantics := "\x7b\"elementTranslationRules\":5,\"notes\":[1.5]\x7d" }

/-- A rule for elements of type `A`. -/
def ruleA : SemanticsEdit := .elementRule "A" { param := "x", constraint := "x > 0" }

/-- A rule for elements of type `B`. -/
def ruleB : SemanticsEdit := .elementRule "B" { param := "z" }

theorem edits_commute_numbered :
    ruleA.Apart ruleB ∧ (numbered.edit ruleA).edit ruleB = (numbered.edit ruleB).edit ruleA := by
  have hapart : ruleA.Apart ruleB := .inr ⟨"A", "B", rfl, rfl, by decide⟩
  exact ⟨hapart, (edits_commute numbered).1 _ _ hapart⟩

/-- A number that is not read back as it is written. -/
def measured : Session :=
  { semantics := "\x7b\"size\":51.2481783755054040\x7d" }

lemma get?_size :
    (Json.get? "size" (SemanticsEdit.storedMembers measured.semantics)).bind Json.number? =
      some (.float 51.248178375505404) := by
  decide +kernel

/-- The second of two edits changes the number, although it sets the types only. -/
theorem edit_not_idempotent : ¬ ∀ (s : Session) (e : SemanticsEdit),
    (s.edit e).edit e = s.edit e := by
  intro h
  have hback := (edit_edit_eq_iff measured rfl rfl).1 (h measured (.elementTypes ["A"]))
  have hkeys := SemanticsEdit.get?_edited (.elementTypes ["A"]) measured.semantics "size"
  rw [if_neg (by decide), SemanticsEdit.get?_withDefaults] at hkeys
  have hsize := get?_size
  cases hfound : Json.get? "size" (SemanticsEdit.storedMembers measured.semantics) with
  | none =>
    rw [hfound] at hsize
    cases hsize
  | some v =>
    rw [hfound, Option.bind_some] at hsize
    obtain rfl := Json.eq_of_number? hsize
    rw [hfound, Option.some_or] at hkeys
    have hsame := Json.readsBack_obj_iff.1 hback _ (Json.mem_of_get? hkeys)
    exact Json.Number.rereadFloat_ne (Json.Number.float.inj (Json.num.inj hsame))

end Session

end Atelier

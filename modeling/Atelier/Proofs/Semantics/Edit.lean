/-
What an edit does to the stored document.

The members of a stored text are kept in their canonical form, and so are the defaults and the
value that an edit sets.  Hence the new text denotes the members that were written, with their
doubles read again (`parseCanonical_apply`): those of the old text, a default for each key of a
document that was missing, and under one key the value of the edit.
-/
import Mathlib.Tactic.Common
import Atelier.Semantics.Edit
import Atelier.Proofs.Json.Canonical
import Atelier.Proofs.Language.Legible

namespace Atelier

open Json (Legible Kept)

variable {room : Nat}

/-! ## Values that edits write -/

lemma Json.canonical_ofStrings (texts : List String) : Json.Canonical (.ofStrings texts) := by
  refine .arr fun v hv => ?_
  obtain ⟨s, -, rfl⟩ := List.mem_map.1 hv
  exact .str s

/-- Fields that a record of rules can have: texts and lists of texts. -/
def FlatFields (fields : List (String × Json)) : Prop :=
  ∀ field ∈ fields, (∃ s, field.2 = .str s) ∨ ∃ texts, field.2 = .ofStrings texts

namespace FlatFields

variable {fields : List (String × Json)}

lemma canonical (h : FlatFields fields) : Json.Canonical (.obj (Json.sortMembers fields)) := by
  refine .obj (Json.sorted_sortMembers fields) fun field hfield => ?_
  rcases h field (Json.mem_of_mem_sortMembers hfield) with ⟨s, hs⟩ | ⟨texts, htexts⟩
  · rw [hs]
    exact .str s
  · rw [htexts]
    exact Json.canonical_ofStrings texts

lemma legible_obj (h : FlatFields fields) : Legible (room + 2) (.obj fields) := by
  refine .obj fun field hfield => ?_
  rcases h field hfield with ⟨s, hs⟩ | ⟨texts, htexts⟩
  · rw [hs]
    exact .str s
  · rw [htexts]
    exact Json.legible_ofStrings texts

lemma legible (h : FlatFields fields) : Legible (room + 2) (.obj (Json.sortMembers fields)) := by
  have hsorted : FlatFields (Json.sortMembers fields) :=
    fun field hfield => h field (Json.mem_of_mem_sortMembers hfield)
  exact hsorted.legible_obj

/-- Sorting the fields gives the canonical form of the record. -/
lemma canonical?_obj (h : FlatFields fields) :
    Json.canonical? (.obj fields) = some (.obj (Json.sortMembers fields)) := by
  have hfields : Json.canonicalMembers? fields = some fields := by
    refine Json.canonicalMembers?_eq fun field hfield => ?_
    rcases h field hfield with ⟨s, hs⟩ | ⟨texts, htexts⟩
    · rw [hs]
      rfl
    · rw [htexts]
      exact (Json.canonical_ofStrings texts).canonical?_eq
  rw [Json.canonical?, hfields, Option.map_some]

lemma readsBack_obj (h : FlatFields fields) : (Json.obj fields).ReadsBack := by
  refine Json.readsBack_obj_iff.2 fun field hfield => ?_
  rcases h field hfield with ⟨s, hs⟩ | ⟨texts, htexts⟩
  · rw [hs]
    exact Json.readsBack_str s
  · rw [htexts]
    exact Json.readsBack_ofStrings texts

lemma readsBack (h : FlatFields fields) : (Json.obj (Json.sortMembers fields)).ReadsBack := by
  have hsorted : FlatFields (Json.sortMembers fields) :=
    fun field hfield => h field (Json.mem_of_mem_sortMembers hfield)
  exact hsorted.readsBack_obj

end FlatFields

lemma ElementSemantics.flat_fields (r : ElementSemantics) : FlatFields r.fields := by
  simp [FlatFields, fields]

lemma RelationSemantics.flat_fields (r : RelationSemantics) : FlatFields r.fields := by
  simp [FlatFields, fields]

lemma AttributeSemantics.flat_fields (r : AttributeSemantics) : FlatFields r.fields := by
  simp [FlatFields, fields]

namespace SemanticsEdit

/-! ## What is stored -/

lemma storedMembers_eq {text : String} {members : List (String × Json)}
    (h : Json.parseCanonical text = some (.obj members)) : storedMembers text = members := by
  rw [storedMembers, h]
  rfl

/-- A document has 126 levels of containers below it. -/
lemma kept_storedMembers (text : String) : Kept 126 (storedMembers text) := by
  unfold storedMembers
  cases hparsed : Json.parseCanonical text with
  | none => exact .nil
  | some v =>
    obtain ⟨hcanonical, hlegible⟩ := Json.canonical_of_parseCanonical hparsed
    cases v with
    | obj members => exact .of_obj hcanonical hlegible
    | _ => exact .nil

/-- The value of the edited key can be kept, whatever it was before. -/
lemma kept_members? {v : Json} (hcanonical : Json.Canonical v) (hlegible : Legible (room + 1) v) :
    Kept room (v.members?.getD []) := by
  cases v with
  | obj members => exact .of_obj hcanonical hlegible
  | _ => exact .nil

lemma kept_insertRule {name : String} {rule : List (String × Json)} {stored : Json}
    (hrule : FlatFields rule) (hcanonical : Json.Canonical stored)
    (hlegible : Legible (room + 3) stored) :
    Json.Canonical (insertRule name rule stored) ∧ Legible (room + 3) (insertRule name rule stored) := by
  have hkept := (kept_members? hcanonical hlegible).set hrule.canonical hrule.legible name
  exact ⟨hkept.canonical_obj, hkept.legible_obj⟩

lemma kept_change (e : SemanticsEdit) {stored : Json} (hcanonical : Json.Canonical stored)
    (hlegible : Legible (room + 3) stored) :
    Json.Canonical (e.change stored) ∧ Legible (room + 3) (e.change stored) := by
  cases e with
  | elementTypes types | relationTypes types | attributeTypes types =>
    exact ⟨Json.canonical_ofStrings types, Json.legible_ofStrings types⟩
  | elementRule name rule => exact kept_insertRule rule.flat_fields hcanonical hlegible
  | relationRule name rule => exact kept_insertRule rule.flat_fields hcanonical hlegible
  | attributeRule name rule => exact kept_insertRule rule.flat_fields hcanonical hlegible

/-! ## What is read again -/

lemma reread_insertRule {name : String} {rule : List (String × Json)} (hrule : FlatFields rule)
    (stored : Json) :
    (insertRule name rule stored).reread = insertRule name rule stored.reread := by
  have hread : (Json.obj (Json.sortMembers rule)).reread = .obj (Json.sortMembers rule) :=
    hrule.readsBack
  rw [insertRule, insertRule, Json.reread, Json.rereadMembers_set, hread, Json.members?_reread]

/-- What an edit writes is read back as it is. -/
lemma reread_change (e : SemanticsEdit) (stored : Json) :
    (e.change stored).reread = e.change stored.reread := by
  cases e with
  | elementTypes types | relationTypes types | attributeTypes types =>
    exact Json.readsBack_ofStrings types
  | elementRule name rule => exact reread_insertRule rule.flat_fields stored
  | relationRule name rule => exact reread_insertRule rule.flat_fields stored
  | attributeRule name rule => exact reread_insertRule rule.flat_fields stored

/-! ## Defaults -/

/-- The defaults of a document are empty lists and empty tables. -/
lemma default_of_mem_fields {field : String × Json} (h : field ∈ ({} : Semantics).fields) :
    field.2 = .arr [] ∨ field.2 = .obj [] := by
  simp only [Semantics.fields, Json.ofStrings, Table.toJson, Table.empty, List.map_nil,
    List.mem_cons, List.not_mem_nil, or_false] at h
  rcases h with rfl | rfl | rfl | rfl | rfl | rfl | rfl | rfl | rfl <;> simp

/-- A default is added where a key is missing, and nothing else changes. -/
lemma get?_withDefaults (members : List (String × Json)) (key : String) :
    Json.get? key (withDefaults members) =
      (Json.get? key members).or (Json.get? key ({} : Semantics).fields) := by
  unfold withDefaults
  generalize ({} : Semantics).fields = defaults
  induction defaults generalizing members with
  | nil => simp
  | cons field rest ih =>
    obtain ⟨k, v⟩ := field
    have hfirst : Json.get? key
        (if (Json.get? k members).isSome then members else Json.set k v members) =
          (Json.get? key members).or (if key = k then some v else none) := by
      by_cases hkey : key = k
      · subst hkey
        cases hk : Json.get? key members <;> simp [hk, Json.get?_set]
      · rw [if_neg hkey, Option.or_none]
        split
        · rfl
        · rw [Json.get?_set, if_neg hkey]
    rw [List.foldl_cons, ih, Json.get?_cons, hfirst, Option.or_assoc]
    by_cases hkey : key = k <;> simp [hkey]

lemma kept_withDefaults {members : List (String × Json)} (h : Kept (room + 1) members) :
    Kept (room + 1) (withDefaults members) := by
  have hdefaults : ∀ field ∈ ({} : Semantics).fields,
      Json.Canonical field.2 ∧ Legible (room + 1) field.2 := by
    intro field hfield
    rcases default_of_mem_fields hfield with hempty | hempty <;> rw [hempty]
    · exact ⟨.arr (by simp), .arr (by simp)⟩
    · exact ⟨.obj Json.sorted_nil (by simp), .obj (by simp)⟩
  unfold withDefaults
  generalize ({} : Semantics).fields = defaults at hdefaults ⊢
  induction defaults generalizing members with
  | nil => exact h
  | cons field rest ih =>
    obtain ⟨hcanonical, hlegible⟩ := hdefaults field List.mem_cons_self
    refine ih ?_ fun other hother => hdefaults other (List.mem_cons_of_mem _ hother)
    show Kept (room + 1)
      (if (Json.get? field.1 members).isSome then members else Json.set field.1 field.2 members)
    split
    · exact h
    · exact h.set hcanonical hlegible _

/-- Defaults are read back as they are. -/
lemma rereadMembers_withDefaults {members : List (String × Json)} (h : Kept (room + 1) members) :
    Json.rereadMembers (withDefaults members) = withDefaults (Json.rereadMembers members) := by
  refine (kept_withDefaults h).sorted.reread.ext (kept_withDefaults h.reread).sorted fun key => ?_
  rw [Json.get?_rereadMembers, get?_withDefaults, get?_withDefaults, Json.get?_rereadMembers,
    Option.map_or]
  congr 1
  cases hdefault : Json.get? key ({} : Semantics).fields with
  | none => rfl
  | some v =>
    rcases default_of_mem_fields (Json.mem_of_get? hdefault) with rfl | rfl <;> rfl

/-! ## The new text -/

/-- The value of the edited key before an edit, its default if it was missing. -/
def before (e : SemanticsEdit) (text : String) : Json :=
  (Json.get? e.key (withDefaults (storedMembers text))).getD .null

/-- The members of a stored text after an edit. -/
def edited (e : SemanticsEdit) (text : String) : List (String × Json) :=
  Json.set e.key (e.change (e.before text)) (withDefaults (storedMembers text))

lemma kept_before (e : SemanticsEdit) (text : String) :
    Json.Canonical (e.before text) ∧ Legible 126 (e.before text) := by
  have hkept := kept_withDefaults (kept_storedMembers text)
  unfold before
  cases hfound : Json.get? e.key (withDefaults (storedMembers text)) with
  | none => exact ⟨.null, .null⟩
  | some v =>
    have hmem := Json.mem_of_get? hfound
    exact ⟨hkept.canonical _ hmem, hkept.legible _ hmem⟩

lemma kept_edited (e : SemanticsEdit) (text : String) : Kept 126 (e.edited text) := by
  obtain ⟨hcanonical, hlegible⟩ := e.kept_before text
  obtain ⟨hcanonical', hlegible'⟩ := e.kept_change hcanonical hlegible
  exact (kept_withDefaults (kept_storedMembers text)).set hcanonical' hlegible' e.key

/-- The new text denotes the members that were written, with their doubles read again. -/
theorem parseCanonical_apply (e : SemanticsEdit) (text : String) :
    Json.parseCanonical (e.apply text) = some (.obj (Json.rereadMembers (e.edited text))) := by
  have hkept := e.kept_edited text
  exact Json.parseCanonical_pretty hkept.canonical_obj hkept.legible_obj

/-- Under each key stands what is read again of the value there. -/
lemma get?_reread_edited (e : SemanticsEdit) (text key : String) :
    Json.get? key (Json.rereadMembers (e.edited text)) =
      if key = e.key then some (e.change (e.before text).reread)
      else (Json.get? key (withDefaults (storedMembers text))).map Json.reread := by
  rw [edited, Json.rereadMembers_set, reread_change, Json.get?_set, Json.get?_rereadMembers]

/-- If what is stored is read back, then so is what an edit leaves. -/
lemma rereadMembers_edited (e : SemanticsEdit) {text : String}
    (hback : (Json.obj (storedMembers text)).ReadsBack) :
    Json.rereadMembers (e.edited text) = e.edited text := by
  have hstored : Json.rereadMembers (storedMembers text) = storedMembers text :=
    Json.obj.inj hback
  have hfilled := rereadMembers_withDefaults (kept_storedMembers text)
  rw [hstored] at hfilled
  have hbefore : (e.before text).reread = e.before text := by
    have hget := Json.get?_rereadMembers e.key (withDefaults (storedMembers text))
    rw [hfilled] at hget
    rw [before]
    cases hfound : Json.get? e.key (withDefaults (storedMembers text)) with
    | none => rfl
    | some v =>
      rw [hfound, Option.map_some, Option.some_inj] at hget
      exact hget.symm
  rw [edited, Json.rereadMembers_set, reread_change, hbefore, hfilled]

/-! ## One key -/

/-- `after` is the table `before`, an empty one if `before` is none, with a rule set. -/
def SetsRule (name : String) (rule : Json) (before : Option Json) (after : Json) : Prop :=
  ∃ rules form, after = .obj rules ∧ Json.Sorted rules ∧ rule.canonical? = some form ∧
    ∀ other, Json.get? other rules =
      if other = name then some form
      else Json.get? other ((before.bind Json.members?).getD [])

/-- What an edit makes of the value of its key: the list it gives, or the stored table with one
rule set. -/
def Sets (e : SemanticsEdit) (before : Option Json) (after : Json) : Prop :=
  match e with
  | elementTypes types | relationTypes types | attributeTypes types => after = .ofStrings types
  | elementRule name rule => SetsRule name (.obj rule.fields) before after
  | relationRule name rule => SetsRule name (.obj rule.fields) before after
  | attributeRule name rule => SetsRule name (.obj rule.fields) before after

lemma setsRule_insertRule {name : String} {rule : List (String × Json)} {before : Option Json}
    (hrule : FlatFields rule) (hbefore : Json.Canonical (before.getD .null)) :
    SetsRule name (.obj rule) before (insertRule name rule (before.getD .null)) := by
  have hmembers : (before.getD .null).members?.getD [] = (before.bind Json.members?).getD [] := by
    cases before <;> rfl
  refine ⟨_, _, rfl, ?_, hrule.canonical?_obj, fun other => ?_⟩
  · exact hbefore.sorted_members?.set _ _
  · rw [hmembers, Json.get?_set]

lemma sets_change (e : SemanticsEdit) {before : Option Json}
    (hbefore : Json.Canonical (before.getD .null)) : e.Sets before (e.change (before.getD .null)) := by
  cases e with
  | elementTypes | relationTypes | attributeTypes => rfl
  | elementRule name rule => exact setsRule_insertRule rule.flat_fields hbefore
  | relationRule name rule => exact setsRule_insertRule rule.flat_fields hbefore
  | attributeRule name rule => exact setsRule_insertRule rule.flat_fields hbefore

end SemanticsEdit

namespace Session

/-- An edit sets one key.  Let a stored text be an object, an empty one if it is no JSON or no
object, filled up with the defaults of the keys of a document that it lacks, and let the values in
it be read back as they are written.  Then the text after an edit is an object that has under the
key of the edit what the edit makes of it, and under every other key, of a document or not, what it
had before.  Nothing else of the session changes. -/
theorem edit_sets_one_key (s : Session) (e : SemanticsEdit)
    (hback : (Json.obj (SemanticsEdit.storedMembers s.semantics)).ReadsBack) :
    let stored := ((Json.parseCanonical s.semantics).bind Json.members?).getD []
    let filled := fun key =>
      (Json.get? key stored).or (Json.get? key ({} : Semantics).fields)
    s.edit e = { s with semantics := (s.edit e).semantics } ∧
      ∃ members value,
        Json.parseCanonical (s.edit e).semantics = some (.obj members) ∧
        Json.Sorted members ∧ e.Sets (filled e.key) value ∧
        ∀ key, Json.get? key members = if key = e.key then some value else filled key := by
  intro stored filled
  have hfilled : ∀ key,
      Json.get? key (SemanticsEdit.withDefaults (SemanticsEdit.storedMembers s.semantics)) =
        filled key :=
    SemanticsEdit.get?_withDefaults stored
  have hbefore : e.before s.semantics = (filled e.key).getD .null := by
    rw [SemanticsEdit.before, hfilled]
  have hcanonical := (e.kept_before s.semantics).1
  rw [hbefore] at hcanonical
  have hparsed := e.parseCanonical_apply s.semantics
  rw [e.rereadMembers_edited hback] at hparsed
  refine ⟨rfl, e.edited s.semantics, e.change ((filled e.key).getD .null), hparsed,
    (e.kept_edited s.semantics).sorted, e.sets_change hcanonical, fun key => ?_⟩
  rw [SemanticsEdit.edited, Json.get?_set, hbefore, hfilled]

/-- Values that no document has. -/
def notes : List (String × Json) :=
  [("notes", .arr [.num (.float 1.5), .null])]

lemma kept_notes : Kept 126 notes := by
  have hfinite : (1.5 : Float).isFinite = true := by decide +kernel
  refine Kept.nil.set (.arr ?_) (.arr ?_) "notes" <;> intro v hv <;>
    rcases List.mem_cons.1 hv with rfl | hv
  · exact .num _
  · rw [List.mem_singleton.1 hv]
    exact .null
  · exact .num hfinite
  · rw [List.mem_singleton.1 hv]
    exact .null

lemma readsBack_notes : (Json.obj notes).ReadsBack := by
  have hread : Json.Number.rereadFloat 1.5 = 1.5 := by decide +kernel
  simp [Json.ReadsBack, notes, Json.reread, Json.rereadMembers, Json.rereadItems,
    Json.Number.reread, hread]

/-- A session that stores them. -/
def annotated : Session :=
  { semantics := (Json.obj notes).pretty }

lemma storedMembers_annotated : SemanticsEdit.storedMembers annotated.semantics = notes := by
  have hparsed := Json.parseCanonical_pretty kept_notes.canonical_obj kept_notes.legible_obj
  rw [readsBack_notes] at hparsed
  exact SemanticsEdit.storedMembers_eq hparsed

/-- The notes are kept beside the types that are set. -/
theorem edit_sets_one_key_annotated :
    ∃ members,
      Json.parseCanonical (annotated.edit (.elementTypes ["A"])).semantics = some (.obj members) ∧
      Json.get? "elementTypes" members = some (.ofStrings ["A"]) ∧
      Json.get? "notes" members = some (.arr [.num (.float 1.5), .null]) := by
  have hback : (Json.obj (SemanticsEdit.storedMembers annotated.semantics)).ReadsBack := by
    rw [storedMembers_annotated]
    exact readsBack_notes
  obtain ⟨-, members, value, hparsed, -, hvalue, hfound⟩ :=
    edit_sets_one_key annotated (.elementTypes ["A"]) hback
  obtain rfl : value = .ofStrings ["A"] := hvalue
  refine ⟨members, hparsed, hfound "elementTypes", ?_⟩
  have hnotes := hfound "notes"
  change _ = (Json.get? "notes" (SemanticsEdit.storedMembers annotated.semantics)).or _ at hnotes
  rw [storedMembers_annotated] at hnotes
  exact hnotes

end Session

end Atelier

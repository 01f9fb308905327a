/-
What an edit does to the document that a reader sees.

The reader takes each field of a document on its own: a list, or a table of rules, is there as a
whole or not at all.  So an edit of a list is seen as it is, while a rule that is set is seen
only if every other rule stored beside it can be read (`current_apply`).  A stored entry that is
no rule is kept by the edit and hides the whole table, the new rule included.
-/
import Mathlib.Tactic.Common
import Atelier.Proofs.Json.Tables
import Atelier.Proofs.Language.Records
import Atelier.Proofs.Semantics.Edit

namespace Atelier

open Json (Legible Kept)

/-! ## Rules have no doubles -/

namespace Json

lemma unaware_strings? : Unaware strings? :=
  unaware_string?.list?

lemma unaware_word? : Unaware word? := fun v =>
  congrArg (Option.map UInt32.ofNat) (unaware_natural? UInt32.size v)

end Json

lemma ElementSemantics.unaware_ofJson? : Json.Unaware ofJson? := by
  intro v
  rw [ofJson?, ofJson?, Json.record?_reread]
  cases v.record? ["param", "constraint", "selectedConstraint", "deselectedConstraint"] with
  | none => rfl
  | some fields => simp [Json.unaware_string?.withDefault]

lemma RelationSemantics.unaware_ofJson? : Json.Unaware ofJson? := by
  intro v
  rw [ofJson?, ofJson?, Json.record?_reread]
  cases v.record? ["params", "constraint"] with
  | none => rfl
  | some fields => simp [Json.unaware_string?.withDefault, Json.unaware_strings?.withDefault]

lemma AttributeSemantics.unaware_ofJson? : Json.Unaware ofJson? := by
  intro v
  rw [ofJson?, ofJson?, Json.record?_reread]
  cases v.record? ["parent", "param", "template", "constraint"] with
  | none => rfl
  | some fields => simp [Json.unaware_string?.withDefault]

lemma RelationPropertyField.unaware_ofJson? : Json.Unaware ofJson? := by
  intro v
  rw [ofJson?, ofJson?, Json.record?_reread]
  cases v.record? ["key", "index"] with
  | none => rfl
  | some fields => simp [Json.unaware_string?.required, Json.unaware_word?.required]

namespace Semantics

/-! ## What a reader sees -/

/-- The list in a stored value, an empty one in any other value. -/
def listIn (stored : Option Json) : List String :=
  (stored.bind Json.strings?).getD []

/-- The members of a stored table, none in any other value. -/
def storedTable (stored : Option Json) : List (String × Json) :=
  (stored.bind Json.members?).getD []

lemma storedTable_obj (members : List (String × Json)) :
    storedTable (some (.obj members)) = members := rfl

/-- The rules in the members of a table, none if one of them cannot be read. -/
def rulesIn {α : Type} (read : Json → Option α) (stored : Option Json) : Table α :=
  (Json.table? read (.obj (storedTable stored))).getD .empty

/-- The document in what is found under its keys. -/
def seen (found : String → Option Json) : Semantics where
  elementTypes := listIn (found "elementTypes")
  elementRules := rulesIn ElementSemantics.ofJson? (found "elementTranslationRules")
  relationTypes := listIn (found "relationTypes")
  relationRules := rulesIn RelationSemantics.ofJson? (found "relationTranslationRules")
  attributeTypes := listIn (found "attributeTypes")
  attributeRules := rulesIn AttributeSemantics.ofJson? (found "attributeTranslationRules")
  hierarchyTypes := listIn (found "hierarchyTypes")
  typingRelationTypes := listIn (found "typingRelationTypes")
  relationPropertySchema :=
    rulesIn RelationPropertyField.ofJson? (found "relationPropertySchema")

/-- Doubles are not seen. -/
lemma seen_reread (found : String → Option Json) :
    seen (fun key => (found key).map Json.reread) = seen found := by
  have hlist (stored : Option Json) : listIn (stored.map Json.reread) = listIn stored := by
    rw [listIn, listIn, Option.bind_map]
    exact congrArg (fun read => (stored.bind read).getD []) (funext Json.unaware_strings?)
  have hrules {α : Type} {read : Json → Option α} (h : Json.Unaware read) (stored : Option Json) :
      rulesIn read (stored.map Json.reread) = rulesIn read stored := by
    have htable : storedTable (stored.map Json.reread) =
        Json.rereadMembers (storedTable stored) := by
      cases stored with
      | none => rfl
      | some v => cases v <;> rfl
    rw [rulesIn, rulesIn, htable]
    exact congrArg (Option.getD · .empty) (h.table? (.obj (storedTable stored)))
  simp only [seen, hlist, hrules ElementSemantics.unaware_ofJson?,
    hrules RelationSemantics.unaware_ofJson?, hrules AttributeSemantics.unaware_ofJson?,
    hrules RelationPropertyField.unaware_ofJson?]

lemma elementRules_seen (found : String → Option Json) :
    (seen found).elementRules =
      rulesIn ElementSemantics.ofJson? (found "elementTranslationRules") := rfl

lemma get?_withRuleTables (key : String) (members : List (String × Json)) :
    Json.get? key (withRuleTables members) =
      (Json.get? key members).map fun v =>
        if key ∈ ruleKeys && v.isEmptyArray then .obj [] else v := by
  induction members with
  | nil => rfl
  | cons member rest ih =>
    obtain ⟨k, v⟩ := member
    have hcons : withRuleTables ((k, v) :: rest) =
        (k, if k ∈ ruleKeys && v.isEmptyArray then .obj [] else v) :: withRuleTables rest := rfl
    rw [hcons, Json.get?_cons, Json.get?_cons, ih]
    by_cases hkey : key = k
    · subst hkey
      simp
    · simp [hkey]

/-- An empty array is an empty table of rules, and any other value but a table has none. -/
lemma getD_table?_eq {α : Type} (read : Json → Option α) (stored : Option Json)
    (emptyArrays : Bool) :
    ((stored.map fun v => if emptyArrays && v.isEmptyArray then .obj [] else v).bind
      (Json.table? read)).getD .empty = rulesIn read stored := by
  cases stored with
  | none => rfl
  | some v =>
    cases v with
    | arr items => cases items <;> cases emptyArrays <;> rfl
    | obj members => cases emptyArrays <;> rfl
    | _ => cases emptyArrays <;> rfl

lemma current_eq_seen (text : String) :
    current text = seen fun key => Json.get? key (SemanticsEdit.storedMembers text) := by
  have hmembers : current text = ofMembers (withRuleTables (SemanticsEdit.storedMembers text)) := by
    unfold current SemanticsEdit.storedMembers
    cases (Json.parseCanonical text).bind Json.members? <;> rfl
  rw [hmembers]
  generalize SemanticsEdit.storedMembers text = members
  have hlist : ∀ key, key ∉ ruleKeys →
      ((Json.get? key (withRuleTables members)).bind Json.strings?).getD [] =
        listIn (Json.get? key members) := by
    intro key hkey
    rw [get?_withRuleTables]
    simp [hkey, listIn]
  have htable : ∀ {α : Type} (read : Json → Option α) (key : String),
      ((Json.get? key (withRuleTables members)).bind (Json.table? read)).getD .empty =
        rulesIn read (Json.get? key members) := by
    intro α read key
    rw [get?_withRuleTables]
    exact getD_table?_eq read _ _
  simp only [seen, ← htable, ← hlist "elementTypes" (by decide),
    ← hlist "relationTypes" (by decide), ← hlist "attributeTypes" (by decide),
    ← hlist "hierarchyTypes" (by decide), ← hlist "typingRelationTypes" (by decide)]
  rfl

/-! ## After an edit -/

/-- A document depends on the lists and tables that are found under its keys only. -/
lemma seen_congr {found found' : String → Option Json}
    (hlist : ∀ key, listIn (found key) = listIn (found' key))
    (htable : ∀ key, storedTable (found key) = storedTable (found' key)) :
    seen found = seen found' := by
  simp only [seen, rulesIn, hlist, htable]

/-- Where a default reads as nothing stored, adding one makes no difference. -/
lemma read_or_default {β : Type} {read : Option Json → β} (harr : read (some (.arr [])) = read none)
    (hobj : read (some (.obj [])) = read none) (key : String) (stored : Option Json) :
    read (stored.or (Json.get? key ({} : Semantics).fields)) = read stored := by
  cases stored with
  | some v => rfl
  | none =>
    rw [Option.none_or]
    cases hdefault : Json.get? key ({} : Semantics).fields with
    | none => rfl
    | some v =>
      rcases SemanticsEdit.default_of_mem_fields (Json.mem_of_get? hdefault) with rfl | rfl
      · exact harr
      · exact hobj

lemma listIn_or_default (key : String) (stored : Option Json) :
    listIn (stored.or (Json.get? key ({} : Semantics).fields)) = listIn stored :=
  read_or_default rfl rfl key stored

lemma storedTable_or_default (key : String) (stored : Option Json) :
    storedTable (stored.or (Json.get? key ({} : Semantics).fields)) = storedTable stored :=
  read_or_default rfl rfl key stored

end Semantics

namespace SemanticsEdit

/-- The rules stored under the key of an edit. -/
def storedRules (e : SemanticsEdit) (text : String) : List (String × Json) :=
  Semantics.storedTable (Json.get? e.key (storedMembers text))

lemma storedMembers_apply (e : SemanticsEdit) (text : String) :
    storedMembers (e.apply text) = Json.rereadMembers (e.edited text) :=
  storedMembers_eq (e.parseCanonical_apply text)

/-- After an edit a reader sees the value of the edit under its key, and all else as before. -/
lemma current_apply_eq_seen (e : SemanticsEdit) (text : String) :
    Semantics.current (e.apply text) = Semantics.seen fun key =>
      if key = e.key then some (e.change (e.before text))
      else Json.get? key (storedMembers text) := by
  have hfound : ∀ key, Json.get? key (e.edited text) =
      if key = e.key then some (e.change (e.before text))
      else (Json.get? key (storedMembers text)).or (Json.get? key ({} : Semantics).fields) := by
    intro key
    rw [edited, Json.get?_set, get?_withDefaults]
  rw [Semantics.current_eq_seen, storedMembers_apply]
  simp only [Json.get?_rereadMembers]
  rw [Semantics.seen_reread]
  refine Semantics.seen_congr (fun key => ?_) fun key => ?_
  · rw [hfound]
    split
    · rfl
    · exact Semantics.listIn_or_default key _
  · rw [hfound]
    split
    · rfl
    · exact Semantics.storedTable_or_default key _

/-- An edit of a rule sets it among the rules stored under the key. -/
lemma insertRule_before (e : SemanticsEdit) (name : String) (rule : List (String × Json))
    (text : String) : insertRule name rule (e.before text) =
      .obj (Json.set name (.obj (Json.sortMembers rule)) (e.storedRules text)) := by
  have hbefore : (e.before text).members?.getD [] = e.storedRules text := by
    rw [storedRules, ← Semantics.storedTable_or_default e.key, ← get?_withDefaults, before,
      Semantics.storedTable]
    cases Json.get? e.key (withDefaults (storedMembers text)) <;> rfl
  rw [insertRule, hbefore]

lemma sorted_storedRules (e : SemanticsEdit) (text : String) : Json.Sorted (e.storedRules text) := by
  unfold storedRules Semantics.storedTable
  cases hfound : Json.get? e.key (storedMembers text) with
  | none => exact Json.sorted_nil
  | some v =>
    have hcanonical := (kept_storedMembers text).canonical _ (Json.mem_of_get? hfound)
    exact hcanonical.sorted_members?

end SemanticsEdit

/-! ## Rules read back -/

namespace Json

lemma record?_sortMembers (names : List String) {members : List (String × Json)}
    (h : (members.map Prod.fst).Nodup) :
    record? names (.obj (sortMembers members)) = some (get? · members) := by
  rw [record?_obj ((sorted_sortMembers members).eachOnce names)]
  congr 1
  funext name
  exact get?_sortMembers h name

end Json

lemma ElementSemantics.ofJson?_fields (r : ElementSemantics) :
    ofJson? (.obj (Json.sortMembers r.fields)) = some r := by
  rw [ofJson?, Json.record?_sortMembers _ (by simp [fields])]
  rfl

lemma RelationSemantics.ofJson?_fields (r : RelationSemantics) :
    ofJson? (.obj (Json.sortMembers r.fields)) = some r := by
  rw [ofJson?, Json.record?_sortMembers _ (by simp [fields])]
  show (Json.strings? (.ofStrings r.params)).bind
    (fun params => some (mk params r.constraint)) = some r
  rw [Json.strings?_ofStrings]
  rfl

lemma AttributeSemantics.ofJson?_fields (r : AttributeSemantics) :
    ofJson? (.obj (Json.sortMembers r.fields)) = some r := by
  rw [ofJson?, Json.record?_sortMembers _ (by simp [fields])]
  rfl

/-! ## What is seen of a rule -/

/-- What is seen of a rule that is set among stored ones, where `t` is the table before and `t'`
the one after. -/
structure RuleSeen {α : Type} (read : Json → Option α) (stored : List (String × Json))
    (name : String) (rule : α) (t t' : Table α) : Prop where
  /-- If all the stored rules can be read, then the rule is set in the table. -/
  bound : (∀ member ∈ stored, (read member.2).isSome = true) →
    ∀ other, t'.get? other = if other = name then some rule else t.get? other
  /-- If all but the replaced one can be read, then the rule appears together with the rest. -/
  replaced : (∀ member ∈ stored, member.1 ≠ name → (read member.2).isSome = true) →
    ∀ other, t'.get? other =
      if other = name then some rule else (Json.get? other stored).bind read
  /-- If one that is not replaced cannot be read, then no rule is seen, before and after. -/
  hidden : (∃ member ∈ stored, member.1 ≠ name ∧ read member.2 = none) → t = .empty ∧ t' = .empty

section

variable {α : Type} {read : Json → Option α} {stored : List (String × Json)} {name : String}
  {rule : α} {form : Json}

lemma get?_table?_set (hstored : Json.Sorted stored) (hform : read form = some rule)
    (hread : ∀ member ∈ stored, member.1 ≠ name → (read member.2).isSome = true)
    (other : String) :
    ((Json.table? read (.obj (Json.set name form stored))).getD .empty).get? other =
      if other = name then some rule else (Json.get? other stored).bind read := by
  have hset := hstored.set name form
  have hall : ∀ member ∈ Json.set name form stored, (read member.2).isSome = true := by
    rintro ⟨k, v⟩ hmember
    have hfound := hset.get?_of_mem hmember
    rw [Json.get?_set] at hfound
    split at hfound
    · obtain rfl := Option.some.inj hfound
      rw [hform]
      rfl
    · rename_i hk
      exact hread _ (Json.mem_of_get? hfound) hk
  obtain ⟨t, ht, hget⟩ := Json.get?_table? hset hall
  rw [ht, Option.getD_some, hget, Json.get?_set]
  split
  · exact hform
  · rfl

lemma RuleSeen.of_set {found : Option Json} (name : String)
    (hstored : Json.Sorted (Semantics.storedTable found)) (hform : read form = some rule) :
    RuleSeen read (Semantics.storedTable found) name rule (Semantics.rulesIn read found)
      (Semantics.rulesIn read
        (some (.obj (Json.set name form (Semantics.storedTable found))))) where
  bound hread other := by
    obtain ⟨t, ht, hget⟩ := Json.get?_table? hstored hread
    rw [Semantics.rulesIn, Semantics.storedTable_obj,
      get?_table?_set hstored hform (fun member hmember _ => hread member hmember),
      Semantics.rulesIn, ht, Option.getD_some, hget]
  replaced hread other := get?_table?_set hstored hform hread other
  hidden := by
    rintro ⟨⟨k, v⟩, hmember, hk, hnone⟩
    -- The edit keeps the entry, which goes on hiding the table.
    have hfound : Json.get? k (Json.set name form (Semantics.storedTable found)) = some v := by
      rw [Json.get?_set, if_neg hk, hstored.get?_of_mem hmember]
    rw [Semantics.rulesIn, Semantics.rulesIn, Semantics.storedTable_obj,
      Json.table?_eq_none hmember hnone, Json.table?_eq_none (Json.mem_of_get? hfound) hnone]
    exact ⟨rfl, rfl⟩

end

namespace SemanticsEdit

lemma ruleSeen_change (e : SemanticsEdit) (text : String) {α : Type} {read : Json → Option α}
    {name : String} {rule : α} {fields : List (String × Json)}
    (hchange : e.change (e.before text) = insertRule name fields (e.before text))
    (hread : read (.obj (Json.sortMembers fields)) = some rule) :
    RuleSeen read (e.storedRules text) name rule
      (Semantics.rulesIn read (Json.get? e.key (storedMembers text)))
      (Semantics.rulesIn read (some (e.change (e.before text)))) := by
  rw [hchange, insertRule_before]
  exact .of_set name (e.sorted_storedRules text) hread

/-- What a reader sees of an edit, where `d` is the document before and `d'` the one after. -/
def Seen (e : SemanticsEdit) (stored : List (String × Json)) (d d' : Semantics) : Prop :=
  match e with
  | elementTypes types => d' = { d with elementTypes := types }
  | relationTypes types => d' = { d with relationTypes := types }
  | attributeTypes types => d' = { d with attributeTypes := types }
  | elementRule name rule => d' = { d with elementRules := d'.elementRules } ∧
      RuleSeen ElementSemantics.ofJson? stored name rule d.elementRules d'.elementRules
  | relationRule name rule => d' = { d with relationRules := d'.relationRules } ∧
      RuleSeen RelationSemantics.ofJson? stored name rule d.relationRules d'.relationRules
  | attributeRule name rule => d' = { d with attributeRules := d'.attributeRules } ∧
      RuleSeen AttributeSemantics.ofJson? stored name rule d.attributeRules d'.attributeRules

/-- A list that is set is what a reader sees, and a rule that is set is seen in its table unless a
rule stored under another name cannot be read.  No other field of the document changes. -/
theorem current_apply (e : SemanticsEdit) (text : String) :
    e.Seen (e.storedRules text) (Semantics.current text) (Semantics.current (e.apply text)) := by
  rw [current_apply_eq_seen, Semantics.current_eq_seen]
  cases e with
  | elementTypes types | relationTypes types | attributeTypes types =>
    simp [Seen, Semantics.seen, key, change, Semantics.listIn]
  | elementRule name rule =>
    have hseen := ruleSeen_change (elementRule name rule) text rfl rule.ofJson?_fields
    exact ⟨by simp [Semantics.seen, key], by simpa [Semantics.seen, key] using hseen⟩
  | relationRule name rule =>
    have hseen := ruleSeen_change (relationRule name rule) text rfl rule.ofJson?_fields
    exact ⟨by simp [Semantics.seen, key], by simpa [Semantics.seen, key] using hseen⟩
  | attributeRule name rule =>
    have hseen := ruleSeen_change (attributeRule name rule) text rfl rule.ofJson?_fields
    exact ⟨by simp [Semantics.seen, key], by simpa [Semantics.seen, key] using hseen⟩

/-- A stored text with one entry `A` in its table of element rules. -/
def entryText (entry : Json) : String :=
  (Json.obj [("elementTranslationRules", .obj [("A", entry)])]).pretty

lemma storedRules_entryText {entry : Json} (hcanonical : Json.Canonical entry)
    (hlegible : Legible 125 entry) (hback : entry.ReadsBack) (name : String)
    (rule : ElementSemantics) :
    (elementRule name rule).storedRules (entryText entry) = [("A", entry)] := by
  have htable : Kept 125 [("A", entry)] := Kept.nil.set hcanonical hlegible "A"
  have hdocument : Kept 126 [("elementTranslationRules", .obj [("A", entry)])] :=
    Kept.nil.set htable.canonical_obj htable.legible_obj "elementTranslationRules"
  have hreread : (Json.obj [("elementTranslationRules", .obj [("A", entry)])]).ReadsBack := by
    simp [Json.readsBack_obj_iff, hback]
  have hparsed := Json.parseCanonical_pretty hdocument.canonical_obj hdocument.legible_obj
  rw [hreread] at hparsed
  have hmembers : storedMembers (entryText entry) =
      [("elementTranslationRules", .obj [("A", entry)])] := storedMembers_eq hparsed
  rw [storedRules, hmembers]
  rfl

/-- A second rule stands beside the first. -/
theorem current_apply_beside :
    let d := Semantics.current ((elementRule "B" { param := "x" }).apply (entryText (.obj [])))
    d.elementRules.get? "A" = some {} ∧ d.elementRules.get? "B" = some { param := "x" } := by
  have hstored := storedRules_entryText (.obj Json.sorted_nil (by simp)) (.obj (by simp)) rfl "B"
    { param := "x" }
  obtain ⟨-, hseen⟩ := current_apply (elementRule "B" { param := "x" }) (entryText (.obj []))
  rw [hstored] at hseen
  have hget := hseen.replaced fun member hmember _ => by
    rw [List.mem_singleton.1 hmember]
    rfl
  exact ⟨hget "A", hget "B"⟩

/-- A rule that is set beside an entry that is no rule is not seen. -/
theorem rule_not_always_seen : ¬ ∀ (text name : String) (rule : ElementSemantics),
    (Semantics.current ((elementRule name rule).apply text)).elementRules.get? name =
      some rule := by
  intro h
  have hstored := storedRules_entryText (.str "x > 0") (.str "x > 0") rfl "B" { param := "x" }
  have hseen := ruleSeen_change (elementRule "B" { param := "x" }) (entryText (.str "x > 0")) rfl
    (ElementSemantics.ofJson?_fields { param := "x" })
  rw [hstored] at hseen
  have hempty := (hseen.hidden ⟨("A", .str "x > 0"), by simp, by decide, rfl⟩).2
  have hrule := h (entryText (.str "x > 0")) "B" { param := "x" }
  rw [current_apply_eq_seen, Semantics.elementRules_seen, key, if_pos rfl, hempty] at hrule
  cases hrule

end SemanticsEdit

end Atelier

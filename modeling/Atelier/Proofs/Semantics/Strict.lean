/-
The strict reader and the lenient one.

The strict reader asks for an object with the core keys in which every field that is there has
its shape.  The lenient one takes each field on its own and falls back to a default.  Where no
field is out of shape the fallback is only taken for fields that are absent, and there the strict
reader has the same default: so whatever the strict reader returns is what the lenient one sees
(`Semantics.parse_agrees`).
-/
import Atelier.Proofs.Semantics.View

namespace Atelier

/-! ## Shapes of fields -/

namespace Json

variable {α : Type} {read : Json → Option α} {v : Json}

/-- A list of texts. -/
def IsTexts (v : Json) : Prop :=
  ∃ texts, v = .ofStrings texts

/-- A table of rules.  It may be written as an empty array. -/
def IsRules (read : Json → Option α) (v : Json) : Prop :=
  v = .arr [] ∨ IsTable read v

lemma exists_strings?_iff : (∃ texts, v.strings? = some texts) ↔ v.IsTexts := by
  constructor
  · rintro ⟨texts, h⟩
    cases v with
    | arr items =>
      refine ⟨texts, congrArg Json.arr ?_⟩
      -- Each text is what the item in its place holds.
      have hitems : items.mapM string? = some texts := h
      clear h
      induction items generalizing texts with
      | nil =>
        obtain rfl : [] = texts := by simpa using hitems
        rfl
      | cons item items ih =>
        rw [List.mapM_cons] at hitems
        obtain ⟨s, hs, hitems⟩ := Option.bind_eq_some_iff.1 hitems
        obtain ⟨rest, hrest, htexts⟩ := Option.bind_eq_some_iff.1 hitems
        obtain rfl := Option.some.inj htexts
        rw [List.map_cons, ← ih rest hrest]
        cases item with
        | str s' => rw [Option.some.inj hs]
        | _ => cases hs
    | _ => cases h
  · rintro ⟨texts, rfl⟩
    exact ⟨texts, strings?_ofStrings texts⟩

/-- Rules are read as a table once an empty array has been replaced by one. -/
lemma exists_rules?_iff :
    (∃ t, table? read (if v.isEmptyArray then .obj [] else v) = some t) ↔ v.IsRules read := by
  rw [exists_table?_iff]
  cases v with
  | arr items =>
    cases items with
    | nil => exact ⟨fun _ => .inl rfl, fun _ => ⟨[], rfl, by simp⟩⟩
    | cons item items =>
      constructor
      · rintro ⟨members, h, -⟩
        cases h
      · rintro (h | ⟨members, h, -⟩) <;> cases h
  | _ =>
    constructor
    · exact .inr
    · rintro (h | h)
      · cases h
      · exact h

/-- A field with a default is read exactly if it is absent or has its shape. -/
lemma Fields.withDefault_eq_some_iff {fields : Fields} {name : String} {default a : α} :
    fields.withDefault name default read = some a ↔
      (∀ v, fields name = some v → ∃ b, read v = some b) ∧
        ((fields name).bind read).getD default = a := by
  unfold withDefault
  cases fields name with
  | none => simp
  | some v =>
    cases hread : read v with
    | none => simp [hread]
    | some b => simp [hread]

end Json

namespace Semantics

/-- In what is found under the keys of a document every field has its shape. -/
structure WellShaped (found : String → Option Json) : Prop where
  elementTypes : ∀ v, found "elementTypes" = some v → v.IsTexts
  elementRules : ∀ v, found "elementTranslationRules" = some v →
    v.IsRules ElementSemantics.ofJson?
  relationTypes : ∀ v, found "relationTypes" = some v → v.IsTexts
  relationRules : ∀ v, found "relationTranslationRules" = some v →
    v.IsRules RelationSemantics.ofJson?
  attributeTypes : ∀ v, found "attributeTypes" = some v → v.IsTexts
  attributeRules : ∀ v, found "attributeTranslationRules" = some v →
    v.IsRules AttributeSemantics.ofJson?
  hierarchyTypes : ∀ v, found "hierarchyTypes" = some v → v.IsTexts
  typingRelationTypes : ∀ v, found "typingRelationTypes" = some v → v.IsTexts
  relationPropertySchema : ∀ v, found "relationPropertySchema" = some v →
    v.IsTable RelationPropertyField.ofJson?

/-! ## Fields one by one -/

/-- A document is read exactly if all of its fields are. -/
lemma ofFields_eq_some_iff {field : {α : Type} → String → α → (Json → Option α) → Option α}
    {d : Semantics} : ofFields field = some d ↔
      field "elementTypes" [] Json.strings? = some d.elementTypes ∧
      field "elementTranslationRules" .empty (Json.table? ElementSemantics.ofJson?) =
        some d.elementRules ∧
      field "relationTypes" [] Json.strings? = some d.relationTypes ∧
      field "relationTranslationRules" .empty (Json.table? RelationSemantics.ofJson?) =
        some d.relationRules ∧
      field "attributeTypes" [] Json.strings? = some d.attributeTypes ∧
      field "attributeTranslationRules" .empty (Json.table? AttributeSemantics.ofJson?) =
        some d.attributeRules ∧
      field "hierarchyTypes" [] Json.strings? = some d.hierarchyTypes ∧
      field "typingRelationTypes" [] Json.strings? = some d.typingRelationTypes ∧
      field "relationPropertySchema" .empty (Json.table? RelationPropertyField.ofJson?) =
        some d.relationPropertySchema := by
  obtain ⟨f1, f2, f3, f4, f5, f6, f7, f8, f9⟩ := d
  simp [ofFields, Option.bind_eq_some_iff]

section

variable {members : List (String × Json)}

lemma sorted_withRuleTables (h : Json.Sorted members) : Json.Sorted (withRuleTables members) :=
  List.pairwise_map.2 h

/-- A list is read from what is stored, which is not changed before. -/
lemma withDefault_strings?_iff {key : String} (hkey : key ∉ ruleKeys) {texts : List String} :
    Json.Fields.withDefault (Json.get? · (withRuleTables members)) key [] Json.strings? =
        some texts ↔
      (∀ v, Json.get? key members = some v → v.IsTexts) ∧
        listIn (Json.get? key members) = texts := by
  have hfound : Json.get? key (withRuleTables members) = Json.get? key members := by
    rw [get?_withRuleTables]
    simp [hkey]
  rw [Json.Fields.withDefault_eq_some_iff, hfound]
  simp only [Json.exists_strings?_iff]
  rfl

/-- A table of rules is read once an empty array has been replaced by one. -/
lemma withDefault_rules?_iff {α : Type} {read : Json → Option α} {key : String}
    (hkey : key ∈ ruleKeys) {t : Table α} :
    Json.Fields.withDefault (Json.get? · (withRuleTables members)) key .empty
        (Json.table? read) = some t ↔
      (∀ v, Json.get? key members = some v → v.IsRules read) ∧
        rulesIn read (Json.get? key members) = t := by
  rw [Json.Fields.withDefault_eq_some_iff, get?_withRuleTables, getD_table?_eq]
  refine and_congr ?_ Iff.rfl
  cases Json.get? key members with
  | none => simp
  | some v => simp [hkey, Json.exists_rules?_iff]

/-- Any other table is read from what is stored. -/
lemma withDefault_table?_iff {α : Type} {read : Json → Option α} {key : String}
    (hkey : key ∉ ruleKeys) {t : Table α} :
    Json.Fields.withDefault (Json.get? · (withRuleTables members)) key .empty
        (Json.table? read) = some t ↔
      (∀ v, Json.get? key members = some v → v.IsTable read) ∧
        rulesIn read (Json.get? key members) = t := by
  rw [Json.Fields.withDefault_eq_some_iff, get?_withRuleTables, getD_table?_eq]
  refine and_congr ?_ Iff.rfl
  cases Json.get? key members with
  | none => simp
  | some v => simp [hkey, Json.exists_table?_iff]

/-- The fields of a document are all read exactly if all have their shape, and then as the lenient
reader sees them. -/
lemma ofJson?_eq_some_iff (h : Json.Sorted members) {d : Semantics} :
    ofJson? (.obj (withRuleTables members)) = some d ↔
      WellShaped (Json.get? · members) ∧ seen (Json.get? · members) = d := by
  have honce := (sorted_withRuleTables h).eachOnce keys
  rw [ofJson?, Json.record?_obj honce]
  show ofFields (Json.Fields.withDefault (Json.get? · (withRuleTables members))) = some d ↔ _
  rw [ofFields_eq_some_iff, withDefault_strings?_iff (by decide),
    withDefault_rules?_iff (by decide), withDefault_strings?_iff (by decide),
    withDefault_rules?_iff (by decide), withDefault_strings?_iff (by decide),
    withDefault_rules?_iff (by decide), withDefault_strings?_iff (by decide),
    withDefault_strings?_iff (by decide), withDefault_table?_iff (by decide)]
  -- Each field is now the pair of its shape and of what is seen of it, in the order of the record.
  constructor
  · rintro ⟨⟨h1, e1⟩, ⟨h2, e2⟩, ⟨h3, e3⟩, ⟨h4, e4⟩, ⟨h5, e5⟩, ⟨h6, e6⟩, ⟨h7, e7⟩, ⟨h8, e8⟩,
      h9, e9⟩
    refine ⟨⟨h1, h2, h3, h4, h5, h6, h7, h8, h9⟩, ?_⟩
    rw [seen, e1, e2, e3, e4, e5, e6, e7, e8, e9]
  · rintro ⟨⟨h1, h2, h3, h4, h5, h6, h7, h8, h9⟩, rfl⟩
    exact ⟨⟨h1, rfl⟩, ⟨h2, rfl⟩, ⟨h3, rfl⟩, ⟨h4, rfl⟩, ⟨h5, rfl⟩, ⟨h6, rfl⟩, ⟨h7, rfl⟩, ⟨h8, rfl⟩,
      h9, rfl⟩

end

/-! ## The two readers -/

/-- The members of a stored document are those of an object with all core keys. -/
lemma core_eq_ok_iff {text : String} {members : List (String × Json)} :
    core text = .ok members ↔ Json.parseCanonical text = some (.obj members) ∧
      ∀ key ∈ coreKeys, ∃ v, Json.get? key members = some v := by
  have hfind {ms : List (String × Json)} :
      (coreKeys.find? fun key => (Json.get? key ms).isNone) = none ↔
        ∀ key ∈ coreKeys, ∃ v, Json.get? key ms = some v := by
    simp [Option.ne_none_iff_exists']
  unfold core
  cases hparsed : Json.parseCanonical text with
  | none => simp
  | some v =>
    have hobj : v = .obj members ↔ v.members? = some members := by
      cases v <;> simp [Json.members?]
    cases hmissing : coreKeys.find? fun key => (Json.get? key (v.members?.getD [])).isNone with
    | some key =>
      simp only [hmissing, reduceCtorEq, false_iff, not_and]
      rintro heq hcore
      rw [Option.some.injEq, hobj] at heq
      rw [heq, Option.getD_some, hfind.2 hcore] at hmissing
      cases hmissing
    | none =>
      simp only [hmissing, Except.ok.injEq, Option.some.injEq]
      constructor
      · rintro rfl
        have hcore := hfind.1 hmissing
        refine ⟨hobj.2 ?_, hcore⟩
        -- What is no object has no members, and the core keys would be missing.
        cases hmembers : v.members? with
        | some ms => rfl
        | none =>
          rw [hmembers] at hcore
          obtain ⟨w, hw⟩ := hcore "elementTypes" (by decide)
          cases hw
      · rintro ⟨rfl, -⟩
        rfl

/-- What the strict reader returns is what the lenient one sees, if the core keys are there and
every field has its shape. -/
lemma parse_eq_ok_iff {text : String} {d : Semantics} :
    parse text = .ok d ↔ ∃ members, core text = .ok members ∧
      WellShaped (Json.get? · members) ∧ seen (Json.get? · members) = d := by
  unfold parse
  cases hcore : core text with
  | error e => simp [Bind.bind, Except.bind]
  | ok members =>
    have hstored : SemanticsEdit.storedMembers text = members :=
      SemanticsEdit.storedMembers_eq (core_eq_ok_iff.1 hcore).1
    have hsorted : Json.Sorted members := hstored ▸ (SemanticsEdit.kept_storedMembers text).sorted
    simp only [Bind.bind, Except.bind, Except.ok.injEq, exists_eq_left',
      ← ofJson?_eq_some_iff hsorted]
    cases ofJson? (.obj (withRuleTables members)) <;> simp

/-- The strict reader returns a document exactly if the text is an object that has all core keys
and in which each of the nine fields that is there has its shape.  Then the lenient reader sees the
same document. -/
theorem parse_agrees (text : String) :
    ((∃ d, parse text = .ok d) ↔ ∃ members, Json.parseCanonical text = some (.obj members) ∧
      (∀ key ∈ coreKeys, ∃ v, Json.get? key members = some v) ∧
      WellShaped (Json.get? · members)) ∧
    ∀ d, parse text = .ok d → current text = d := by
  constructor
  · simp only [parse_eq_ok_iff, core_eq_ok_iff, and_assoc]
    constructor
    · rintro ⟨d, members, hread, hcore, hshape, -⟩
      exact ⟨members, hread, hcore, hshape⟩
    · rintro ⟨members, hread, hcore, hshape⟩
      exact ⟨_, members, hread, hcore, hshape, rfl⟩
  · intro d hd
    obtain ⟨members, hcore, -, rfl⟩ := parse_eq_ok_iff.1 hd
    rw [current_eq_seen, SemanticsEdit.storedMembers_eq (core_eq_ok_iff.1 hcore).1]

/-- A document with a rule written as an array of its fields, rules that are an empty array, and a
key of its own. -/
def terseText : String :=
  "\x7b\"relationTypes\":[],\"relationTranslationRules\":[],\"elementTypes\":[\"A\"]," ++
    "\"elementTranslationRules\":\x7b\"A\":[\"x\",\"x > 0\"]\x7d,\"notes\":null\x7d"

lemma exists_parse_terseText : ∃ d, parse terseText = .ok d := by
  have hread : (parse terseText).toOption.isSome = true := by decide +kernel
  cases hparsed : parse terseText with
  | ok d => exact ⟨d, rfl⟩
  | error e =>
    rw [hparsed] at hread
    cases hread

theorem parse_agrees_terse :
    ∃ d, parse terseText = .ok d ∧ current terseText = d ∧
      d.elementRules.get? "A" = some { param := "x", constraint := "x > 0" } := by
  obtain ⟨d, hd⟩ := exists_parse_terseText
  have hcurrent := (parse_agrees terseText).2 d hd
  refine ⟨d, hd, hcurrent, ?_⟩
  rw [← hcurrent]
  decide +kernel

end Semantics

end Atelier

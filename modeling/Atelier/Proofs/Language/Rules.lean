/-
A concrete syntax is no more than a rule for each name.

A name for which it has no rule looks as one with an empty rule does, and of several rules of one
name the last counts.  So the rules may be written in another order, an empty rule may be added for
a declared type or left out, and a text without any rule may be blank: the definition stays the same
(`Model.ofText_rearranged`).
-/
import Atelier.Proofs.Json.Tables
import Atelier.Proofs.Language.Acceptance

namespace Atelier

/-! ## Rules as they are written -/

/-- The rules of a concrete syntax by name, as they are written. -/
structure WrittenRules where
  elements : List (String × Json)
  relationships : List (String × Json)

namespace WrittenRules

/-- The rules in a record, of which each field gives rules by name. -/
def ofJson? (v : Json) : Option WrittenRules := do
  let r ← v.record? ["elements", "relationships"]
  some {
    elements := ← r.withDefault "elements" [] Json.members?
    relationships := ← r.withDefault "relationships" [] Json.members? }

/-- The rules in a text; a blank text has none. -/
def ofText? (text : String) : Option WrittenRules :=
  if blank text then some ⟨[], []⟩ else (Json.parse text).bind ofJson?

end WrittenRules

/-- The rules that count, each name once: of several rules of one name the last, at the place of
the first. -/
def rulesInForce (rules : List (String × Json)) : List (String × Json) :=
  (Table.ofList rules).entries

/-- The rule that a list has for a name, an empty one if it has none. -/
def ruleOf (rules : List (String × Json)) (name : String) : Json :=
  (rules.lookup name).getD (.obj [])

/-- Rules in another order, with empty rules added for names that are declared and have none, or
with empty rules left out. -/
inductive Rearranged (declared : String → Prop) :
    List (String × Json) → List (String × Json) → Prop where
  | permuted {rules rules' : List (String × Json)} (order : rules.Perm rules') :
      Rearranged declared rules rules'
  | added {before after : List (String × Json)} {name : String} (known : declared name)
      (new : name ∉ (before ++ after).map Prod.fst) :
      Rearranged declared (before ++ after) (before ++ (name, .obj []) :: after)
  | removed {before after : List (String × Json)} {name : String} :
      Rearranged declared (before ++ (name, .obj []) :: after) (before ++ after)
  | trans {rules rules' rules'' : List (String × Json)} (first : Rearranged declared rules rules')
      (second : Rearranged declared rules' rules'') : Rearranged declared rules rules''

/-- The second list of rules states the first one in another way: the rules that count are
rearranged, and no rule is new but empty ones. -/
structure Restated (declared : String → Prop) (rules rules' : List (String × Json)) : Prop where
  inForce : Rearranged declared (rulesInForce rules) (rulesInForce rules')
  known : ∀ rule ∈ rules', rule ∈ rules ∨ rule.2 = .obj []

section

variable {declared : String → Prop} {rules rules' before after : List (String × Json)}
  {name : String}

lemma nodup_rulesInForce (rules : List (String × Json)) :
    ((rulesInForce rules).map Prod.fst).Nodup :=
  (Table.ofList rules).distinct

/-- An empty rule for a name without one changes no name's rule. -/
lemma ruleOf_insert (hnodup : ((before ++ (name, .obj []) :: after).map Prod.fst).Nodup)
    (other : String) :
    ruleOf (before ++ (name, .obj []) :: after) other = ruleOf (before ++ after) other := by
  have hfront : ((name, .obj []) :: (before ++ after)).lookup other =
      (before ++ (name, .obj []) :: after).lookup other :=
    Table.lookup_perm hnodup List.perm_middle other
  have hnew : name ∉ (before ++ after).map Prod.fst := by
    have hcons := (List.perm_middle.map Prod.fst).nodup_iff.1 hnodup
    exact (List.nodup_cons.1 hcons).1
  rw [ruleOf, ← hfront, List.lookup_cons]
  cases hother : other == name with
  | false => rfl
  | true =>
    obtain rfl := beq_iff_eq.1 hother
    have hnone : (before ++ after).lookup other = none := by
      rw [List.lookup_eq_none_iff]
      intro rule hrule
      have hne : other ≠ rule.1 := by
        rintro rfl
        exact hnew (List.mem_map_of_mem hrule)
      simpa using hne
    rw [ruleOf, hnone]
    rfl

namespace Rearranged

lemma nodup (h : Rearranged declared rules rules') (hnodup : (rules.map Prod.fst).Nodup) :
    (rules'.map Prod.fst).Nodup := by
  induction h with
  | permuted order => exact (order.map Prod.fst).nodup_iff.1 hnodup
  | added known new =>
    refine (List.perm_middle.map Prod.fst).nodup_iff.2 ?_
    exact List.nodup_cons.2 ⟨new, hnodup⟩
  | removed =>
    have hcons := (List.perm_middle.map Prod.fst).nodup_iff.1 hnodup
    exact (List.nodup_cons.1 hcons).2
  | trans first second ihFirst ihSecond => exact ihSecond (ihFirst hnodup)

/-- A rule that is added is for a name that is declared. -/
lemma mem_or_declared (h : Rearranged declared rules rules') {name : String}
    (hname : name ∈ rules'.map Prod.fst) : name ∈ rules.map Prod.fst ∨ declared name := by
  induction h with
  | permuted order => exact .inl ((order.map Prod.fst).mem_iff.2 hname)
  | added known new =>
    rcases List.mem_cons.1 ((List.perm_middle.map Prod.fst).mem_iff.1 hname) with rfl | hname
    · exact .inr known
    · exact .inl hname
  | removed =>
    refine .inl ((List.perm_middle.map Prod.fst).mem_iff.2 ?_)
    exact List.mem_cons_of_mem _ hname
  | trans first second ihFirst ihSecond =>
    rcases ihSecond hname with hname | hname
    · exact ihFirst hname
    · exact .inr hname

/-- Every name keeps its rule. -/
lemma ruleOf_eq (h : Rearranged declared rules rules') (hnodup : (rules.map Prod.fst).Nodup)
    (name : String) : ruleOf rules' name = ruleOf rules name := by
  induction h with
  | permuted order => rw [ruleOf, ruleOf, Table.lookup_perm hnodup order]
  | added known new => exact ruleOf_insert ((added known new).nodup hnodup) name
  | removed => exact (ruleOf_insert hnodup name).symm
  | trans first second ihFirst ihSecond =>
    rw [ihSecond (first.nodup hnodup), ihFirst hnodup]

/-- Only empty rules are new. -/
lemma mem_or_empty (h : Rearranged declared rules rules') {rule : String × Json}
    (hrule : rule ∈ rules') : rule ∈ rules ∨ rule.2 = .obj [] := by
  induction h with
  | permuted order => exact .inl (order.mem_iff.2 hrule)
  | added known new =>
    rcases List.mem_cons.1 (List.perm_middle.mem_iff.1 hrule) with rfl | hrule
    · exact .inr rfl
    · exact .inl hrule
  | removed => exact .inl (List.perm_middle.mem_iff.2 (List.mem_cons_of_mem _ hrule))
  | trans first second ihFirst ihSecond =>
    rcases ihSecond hrule with hrule | hrule
    · exact ihFirst hrule
    · exact .inr hrule

end Rearranged

/-- The rules that count are restated by rearranging them. -/
lemma Rearranged.restated (h : Rearranged declared (rulesInForce rules) rules') :
    Restated declared rules rules' where
  inForce := by
    have hsame : rulesInForce rules' = rules' :=
      Table.entries_ofList (h.nodup (nodup_rulesInForce rules))
    rwa [hsame]
  known rule hrule := by
    rcases h.mem_or_empty hrule with hrule | hempty
    · exact .inl (Table.mem_of_mem_ofList hrule)
    · exact .inr hempty

end

/-! ## Rules that are read -/

lemma ElementRule.ofJson?_empty : ofJson? (.obj []) = some default := rfl

lemma Marking.ofJson?_empty : ofJson? (.obj []) = some none := rfl

section

variable {α : Type} {read : Json → Option α} {standard : α} {rules rules' : List (String × Json)}
  {t : Table α}

/-- A name has the rule that is written for it, and the standard one if none is written. -/
lemma getD_get?_of_table? (hempty : read (.obj []) = some standard)
    (h : Json.table? read (.obj rules) = some t) (name : String) :
    (t.get? name).getD standard = (read (ruleOf (rulesInForce rules) name)).getD standard := by
  rw [Json.get?_of_table? h, ruleOf, rulesInForce, Table.get?]
  cases (Table.ofList rules).entries.lookup name with
  | none => simp [hempty]
  | some w => rfl

/-- Rules that are restated can be read, are for names that had a rule or are declared, and are the
same for every name. -/
lemma exists_table?_of_restated {declared : String → Prop} (h : Restated declared rules rules')
    (hempty : read (.obj []) = some standard) (ht : Json.table? read (.obj rules) = some t) :
    ∃ t', Json.table? read (.obj rules') = some t' ∧
      (∀ name ∈ t'.names, name ∈ t.names ∨ declared name) ∧
      ∀ name, (t'.get? name).getD standard = (t.get? name).getD standard := by
  have hread : ∀ rule ∈ rules, ∃ a, read rule.2 = some a := by
    obtain ⟨members, hmembers, hread⟩ := Json.exists_table?_iff.1 ⟨t, ht⟩
    obtain rfl := Json.obj.inj hmembers
    exact hread
  have hread' : ∀ rule ∈ rules', ∃ a, read rule.2 = some a := by
    intro rule hrule
    rcases h.known rule hrule with hold | hnew
    · exact hread rule hold
    · exact ⟨standard, hnew ▸ hempty⟩
  obtain ⟨t', ht'⟩ := Json.exists_table?_iff.2 ⟨rules', rfl, hread'⟩
  refine ⟨t', ht', fun name hname => ?_, fun name => ?_⟩
  · rw [Json.names_of_table? ht'] at hname
    rw [Json.names_of_table? ht]
    exact h.inForce.mem_or_declared hname
  · rw [getD_get?_of_table? hempty ht', getD_get?_of_table? hempty ht,
      h.inForce.ruleOf_eq (nodup_rulesInForce rules)]

end

/-! ## Texts that are read -/

/-- A field of rules is read from the members that it is written with. -/
lemma withDefault_table? {α : Type} {read : Json → Option α} {r : Json.Fields} {name : String}
    {members : List (String × Json)} (h : r.withDefault name [] Json.members? = some members) :
    r.withDefault name .empty (Json.table? read) = Json.table? read (.obj members) := by
  unfold Json.Fields.withDefault at h ⊢
  split at h
  · obtain rfl := Option.some.inj h
    rfl
  · rename_i v hv
    cases v with
    | obj members' =>
      obtain rfl := Option.some.inj h
      rfl
    | _ => cases h

/-- A field of rules that is read is written as members. -/
lemma exists_members? {α : Type} {read : Json → Option α} {r : Json.Fields} {name : String}
    {t : Table α} (h : r.withDefault name .empty (Json.table? read) = some t) :
    ∃ members, r.withDefault name [] Json.members? = some members := by
  unfold Json.Fields.withDefault at h ⊢
  split at h
  · exact ⟨[], rfl⟩
  · rename_i v hv
    cases v with
    | obj members => exact ⟨members, rfl⟩
    | _ => cases h

namespace ConcreteSyntax

variable {c : ConcreteSyntax} {rules : WrittenRules} {v : Json} {text : String}

/-- Rules that are written by name denote a concrete syntax if each of them can be read. -/
structure Denotes (rules : WrittenRules) (c : ConcreteSyntax) : Prop where
  elements : Json.table? ElementRule.ofJson? (.obj rules.elements) = some c.elements
  relationships : Json.table? Marking.ofJson? (.obj rules.relationships) = some c.relationships

lemma ofJson?_eq_some_iff :
    ofJson? v = some c ↔ ∃ rules, WrittenRules.ofJson? v = some rules ∧ Denotes rules c := by
  constructor
  · intro h
    obtain ⟨r, hr, h⟩ := Option.bind_eq_some_iff.1 h
    obtain ⟨elements, helements, h⟩ := Option.bind_eq_some_iff.1 h
    obtain ⟨relationships, hrelationships, h⟩ := Option.bind_eq_some_iff.1 h
    obtain rfl := Option.some.inj h
    obtain ⟨written, hwritten⟩ := exists_members? helements
    obtain ⟨written', hwritten'⟩ := exists_members? hrelationships
    refine ⟨⟨written, written'⟩, ?_, ?_, ?_⟩
    · simp only [WrittenRules.ofJson?, hr, hwritten, hwritten', Option.bind_eq_bind,
        Option.bind_some]
    · rw [← helements, withDefault_table? hwritten]
    · rw [← hrelationships, withDefault_table? hwritten']
  · rintro ⟨rules, hrules, h⟩
    obtain ⟨r, hr, hrules⟩ := Option.bind_eq_some_iff.1 hrules
    obtain ⟨written, hwritten, hrules⟩ := Option.bind_eq_some_iff.1 hrules
    obtain ⟨written', hwritten', hrules⟩ := Option.bind_eq_some_iff.1 hrules
    obtain rfl := Option.some.inj hrules
    have helements := (withDefault_table? hwritten).trans h.elements
    have hrelationships := (withDefault_table? hwritten').trans h.relationships
    simp only [ofJson?, hr, helements, hrelationships, Option.bind_eq_bind, Option.bind_some]

lemma parse_eq_ok_iff :
    parse text = .ok c ↔ ∃ rules, WrittenRules.ofText? text = some rules ∧ Denotes rules c := by
  unfold parse WrittenRules.ofText?
  split
  · -- A blank text has no rules, and so does the empty syntax.
    constructor
    · intro h
      obtain rfl := Except.ok.inj h
      exact ⟨⟨[], []⟩, rfl, rfl, rfl⟩
    · rintro ⟨rules, hrules, helements, hrelationships⟩
      obtain rfl := Option.some.inj hrules
      obtain ⟨elements, relationships⟩ := c
      obtain rfl := Option.some.inj helements
      obtain rfl := Option.some.inj hrelationships
      rfl
  · cases hparse : Json.parse text with
    | none => simp
    | some v =>
      rw [Option.bind_some, Option.bind_some, ← ofJson?_eq_some_iff]
      cases ofJson? v <;> simp

end ConcreteSyntax

/-! ## Definitions -/

namespace Model

variable {a : AbstractSyntax} {c c' : ConcreteSyntax}

/-- A definition depends on the rule of each name only. -/
lemma ofSyntax_congr
    (helements : ∀ name,
      (c'.elements.get? name).getD .default = (c.elements.get? name).getD .default)
    (hrelationships : ∀ name,
      (c'.relationships.get? name).getD .none = (c.relationships.get? name).getD .none) :
    ofSyntax a c' = ofSyntax a c := by
  simp only [ofSyntax, helements, hrelationships]

/-- A text whose rules restate those of a text that was read denotes the same definition. -/
lemma ofText_restated {abstract concrete : String} {m : Model}
    (h : ofText ⟨abstract, concrete⟩ = .ok m) :
    ∃ rules, WrittenRules.ofText? concrete = some rules ∧
      ∀ concrete' rules', WrittenRules.ofText? concrete' = some rules' →
        Restated m.Declares rules.elements rules'.elements →
        Restated m.DeclaresRelationship rules.relationships rules'.relationships →
        ofText ⟨abstract, concrete'⟩ = .ok m := by
  obtain ⟨a, c, ha, hc, hreferences, hrules, rfl⟩ := ofText_eq_ok_iff.1 h
  obtain ⟨rules, hwritten, hdenotes⟩ := ConcreteSyntax.parse_eq_ok_iff.1 hc
  have hdeclared : (ofSyntax a c).RulesDeclared c := rulesDeclared_ofSyntax_iff.2 hrules
  refine ⟨rules, hwritten, fun concrete' rules' hwritten' helements hrelationships => ?_⟩
  obtain ⟨t, ht, hnames, hsame⟩ :=
    exists_table?_of_restated helements ElementRule.ofJson?_empty hdenotes.elements
  obtain ⟨t', ht', hnames', hsame'⟩ :=
    exists_table?_of_restated hrelationships Marking.ofJson?_empty hdenotes.relationships
  have hc' : ConcreteSyntax.parse concrete' = .ok ⟨t, t'⟩ :=
    ConcreteSyntax.parse_eq_ok_iff.2 ⟨rules', hwritten', ht, ht'⟩
  have hrules' : ConcreteSyntax.undeclared? ⟨t, t'⟩ a = none := by
    rw [← rulesDeclared_ofSyntax_iff (c := c)]
    constructor
    · intro name hname
      exact (hnames name hname).elim (hdeclared.elements name) id
    · intro name hname
      exact (hnames' name hname).elim (hdeclared.relationships name) id
  exact ofText_eq_ok_iff.2 ⟨a, ⟨t, t'⟩, ha, hc', hreferences, hrules', ofSyntax_congr hsame hsame'⟩

/-- A concrete syntax without rules may be blank. -/
lemma ofText_blank (abstract : String) {concrete : String} (h : blank concrete = true) :
    ofText ⟨abstract, concrete⟩ = ofText ⟨abstract, "\x7b\x7d"⟩ := by
  have hblank : ConcreteSyntax.parse concrete = .ok .empty := if_pos h
  have hempty : ConcreteSyntax.parse "\x7b\x7d" = .ok .empty := by
    rw [ConcreteSyntax.parse_eq_ok_iff]
    exact ⟨⟨[], []⟩, by rfl, rfl, rfl⟩
  rw [ofText, ofText, hblank, hempty]

/-- A concrete syntax is no more than a rule for each name.  The definition stays the same if the
rules that count are written in another order, if an empty rule is added for a declared type without
one, and if an empty rule is left out.  A blank text stands for one without rules. -/
theorem ofText_rearranged :
    (∀ (abstract concrete : String) (m : Model), ofText ⟨abstract, concrete⟩ = .ok m →
      ∃ rules, WrittenRules.ofText? concrete = some rules ∧
        ∀ concrete' rules', WrittenRules.ofText? concrete' = some rules' →
          Restated m.Declares rules.elements rules'.elements →
          Restated m.DeclaresRelationship rules.relationships rules'.relationships →
          ofText ⟨abstract, concrete'⟩ = .ok m) ∧
      ∀ abstract concrete : String, blank concrete = true →
        ofText ⟨abstract, concrete⟩ = ofText ⟨abstract, "\x7b\x7d"⟩ :=
  ⟨fun _ _ _ h => ofText_restated h, fun abstract _ h => ofText_blank abstract h⟩

/-- Three types of elements and one of relationships. -/
def threeTypes : String :=
  "\x7b\"elements\":\x7b\"A\":\x7b\x7d,\"B\":\x7b\x7d,\"C\":\x7b\x7d\x7d," ++
    "\"relationships\":\x7b\"R\":\x7b\"source\":\"A\",\"target\":\"B\"\x7d\x7d\x7d"

/-- Two rules for one type, of which the second counts, and an empty one. -/
def overridingRules : String :=
  "\x7b\"elements\":\x7b\"A\":\x7b\"height\":9\x7d,\"B\":\x7b\x7d,\"A\":\x7b\"width\":5\x7d\x7d\x7d"

/-- The rule that counts, behind an empty one for another type. -/
def restatedRules : String :=
  "\x7b\"relationships\":\x7b\"R\":\x7b\x7d\x7d," ++
    "\"elements\":\x7b\"C\":\x7b\x7d,\"A\":\x7b\"width\":5\x7d\x7d\x7d"

/-- What both denote. -/
def wideA : Model where
  elements := [⟨"A", 5, 50, [], .none⟩, ⟨"B", 100, 50, [], .none⟩, ⟨"C", 100, 50, [], .none⟩]
  relationships := [⟨"R", none, none, "A", "B", [], .none⟩]
  restrictions := []

theorem ofText_rearranged_overriding :
    ofText ⟨threeTypes, overridingRules⟩ = .ok wideA ∧
      ofText ⟨threeTypes, restatedRules⟩ = .ok wideA ∧
        ofText ⟨threeTypes, " \n"⟩ = ofText ⟨threeTypes, "\x7b\x7d"⟩ := by
  have hread : ofText ⟨threeTypes, overridingRules⟩ = .ok wideA := by decide +kernel
  obtain ⟨rules, hrules, hrestated⟩ := ofText_rearranged.1 _ _ _ hread
  obtain rfl : (⟨[("A", .obj [("height", .num (.natural 9))]), ("B", .obj []),
      ("A", .obj [("width", .num (.natural 5))])], []⟩ : WrittenRules) = rules :=
    Option.some.inj hrules
  let wide : String × Json := ("A", .obj [("width", .num (.natural 5))])
  have hremoved : Rearranged wideA.Declares ([wide] ++ [("B", .obj [])]) ([wide] ++ []) :=
    .removed
  have hadded : Rearranged wideA.Declares ([wide] ++ []) ([wide] ++ [("C", .obj [])]) := by
    refine .added ?_ (by decide)
    rw [Declares]
    decide
  have hswapped : Rearranged wideA.Declares [wide, ("C", .obj [])] [("C", .obj []), wide] :=
    .permuted (.swap ..)
  have hrelationships : Rearranged wideA.DeclaresRelationship ([] ++ [])
      ([] ++ [("R", .obj [])]) := by
    refine .added ?_ (by decide)
    rw [DeclaresRelationship]
    decide
  have helements := (hremoved.trans hadded).trans hswapped
  exact ⟨hread, hrestated restatedRules ⟨_, _⟩ rfl helements.restated hrelationships.restated,
    ofText_rearranged.2 threeTypes " \n" rfl⟩

end Model

end Atelier

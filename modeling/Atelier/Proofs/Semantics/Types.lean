/-
The types in the first document of a language.

The names of elements stand in a list, and the types of relations in lists within lists: those of
the relationships, of their properties, and of the values allowed.  A place there is given by three
numbers, the outermost first.  The document has each text that stands at some place once, and the
texts are in the order of their first places (`InFirstOrder`, `initial_inFirstOrder`).
-/
import Mathlib.Data.Prod.Lex
import Atelier.Proofs.Semantics.Prepare

namespace Atelier.Semantics

/-! ## The order of first occurrence -/

section

variable {ι : Type} [LT ι]

/-- A text has a place before all places of another. -/
def Precedes (occurs : String → ι → Prop) (s t : String) : Prop :=
  ∃ i, occurs s i ∧ ∀ j, occurs t j → i < j

/-- The texts that have a place, each once, in the order of their first places. -/
structure InFirstOrder (occurs : String → ι → Prop) (texts : List String) : Prop where
  nodup : texts.Nodup
  mem_iff : ∀ s, s ∈ texts ↔ ∃ i, occurs s i
  ordered : texts.Pairwise (Precedes occurs)

/-- The places of the texts of a list. -/
def OccursIn (texts : List String) (s : String) (i : ℕ) : Prop :=
  texts[i]? = some s

/-- A list of the texts that have a place.  A text may be repeated, but the first places of the
texts in the list are in the same order as the first places they have. -/
structure Flattens (occurs : String → ι → Prop) (texts : List String) : Prop where
  mem_iff : ∀ s, s ∈ texts ↔ ∃ i, occurs s i
  precedes_iff : ∀ s t, Precedes (OccursIn texts) s t ↔ Precedes occurs s t

end

variable {s t u : String} {texts : List String}

lemma flattens_occursIn (texts : List String) : Flattens (OccursIn texts) texts :=
  ⟨fun _ => List.mem_iff_getElem?, fun _ _ => Iff.rfl⟩

lemma not_precedes_nil : ¬ Precedes (OccursIn []) s t := by
  rintro ⟨i, hi, -⟩
  cases hi

lemma precedes_cons_iff : Precedes (OccursIn (u :: texts)) s t ↔
    t ≠ u ∧ (s = u ∨ Precedes (OccursIn texts) s t) := by
  constructor
  · rintro ⟨i, hi, hbefore⟩
    constructor
    · rintro rfl
      exact absurd (hbefore 0 rfl) (Nat.not_lt_zero i)
    · cases i with
      | zero => exact .inl (Option.some.inj hi).symm
      | succ i => exact .inr ⟨i, hi, fun j hj => Nat.lt_of_succ_lt_succ (hbefore (j + 1) hj)⟩
  · rintro ⟨hne, rfl | ⟨i, hi, hbefore⟩⟩
    · refine ⟨0, rfl, fun j hj => ?_⟩
      cases j with
      | zero => exact absurd (Option.some.inj hj).symm hne
      | succ j => exact Nat.succ_pos j
    · refine ⟨i + 1, hi, fun j hj => ?_⟩
      cases j with
      | zero => exact absurd (Option.some.inj hj).symm hne
      | succ j => exact Nat.succ_lt_succ (hbefore j hj)

lemma precedes_append_iff {texts' : List String} : Precedes (OccursIn (texts ++ texts')) s t ↔
    Precedes (OccursIn texts) s t ∨ t ∉ texts ∧ Precedes (OccursIn texts') s t := by
  induction texts with
  | nil => simp [not_precedes_nil]
  | cons u texts ih =>
    rw [List.cons_append, precedes_cons_iff, precedes_cons_iff, ih, List.mem_cons]
    tauto

/-! ## Each text once -/

lemma mem_distinct : s ∈ distinct texts ↔ s ∈ texts := by
  induction texts with
  | nil => rfl
  | cons u texts ih =>
    rw [distinct, List.mem_cons, List.mem_cons, List.mem_filter, ih]
    by_cases h : s = u <;> simp [h]

lemma nodup_distinct (texts : List String) : (distinct texts).Nodup := by
  induction texts with
  | nil => exact List.nodup_nil
  | cons u texts ih => exact List.nodup_cons.2 ⟨by simp, ih.filter _⟩

lemma pairwise_distinct (texts : List String) :
    (distinct texts).Pairwise (Precedes (OccursIn texts)) := by
  induction texts with
  | nil => exact .nil
  | cons u texts ih =>
    have hne {s : String} (hs : s ∈ (distinct texts).filter (· ≠ u)) : s ≠ u :=
      of_decide_eq_true (List.mem_filter.1 hs).2
    refine List.pairwise_cons.2 ⟨fun t ht => precedes_cons_iff.2 ⟨hne ht, .inl rfl⟩, ?_⟩
    refine (ih.filter _).imp_of_mem fun hs ht hprecedes => ?_
    exact precedes_cons_iff.2 ⟨hne ht, .inr hprecedes⟩

variable {ι : Type} [LT ι]

lemma Flattens.inFirstOrder {occurs : String → ι → Prop} (h : Flattens occurs texts) :
    InFirstOrder occurs (distinct texts) where
  nodup := nodup_distinct texts
  mem_iff s := mem_distinct.trans (h.mem_iff s)
  ordered := (pairwise_distinct texts).imp fun {s t} => (h.precedes_iff s t).1

/-! ## Lists within lists -/

variable {α : Type} {occurs : α → String → ι → Prop} {part : α} {parts : List α}

/-- The places in the parts of a list: the number of the part, and the place in it. -/
def Within (occurs : α → String → ι → Prop) (parts : List α) (s : String) (place : ℕ ×ₗ ι) :
    Prop :=
  ∃ part, parts[(ofLex place).1]? = some part ∧ occurs part s (ofLex place).2

omit [LT ι] in
lemma exists_within_iff :
    (∃ place, Within occurs parts s place) ↔ ∃ part ∈ parts, ∃ i, occurs part s i := by
  constructor
  · rintro ⟨place, part, hpart, hi⟩
    exact ⟨part, List.mem_of_getElem? hpart, _, hi⟩
  · rintro ⟨part, hpart, i, hi⟩
    obtain ⟨n, hn⟩ := List.mem_iff_getElem?.1 hpart
    exact ⟨toLex (n, i), part, hn, hi⟩

lemma not_precedes_within_nil : ¬ Precedes (Within occurs []) s t := by
  rintro ⟨place, ⟨part, hpart, -⟩, -⟩
  cases hpart

lemma precedes_within_iff : Precedes (Within occurs parts) s t ↔
    ∃ n i, Within occurs parts s (toLex (n, i)) ∧
      ∀ m j, Within occurs parts t (toLex (m, j)) → n < m ∨ n = m ∧ i < j := by
  simp only [Precedes, toLex.surjective.exists, toLex.surjective.forall, Prod.exists, Prod.forall,
    Prod.Lex.toLex_lt_toLex]

/-- Of two texts one comes first in the first part, or else in the other parts, if the second text
is not in the first part. -/
lemma precedes_within_cons_iff : Precedes (Within occurs (part :: parts)) s t ↔
    Precedes (occurs part) s t ∨
      (¬ ∃ j, occurs part t j) ∧ Precedes (Within occurs parts) s t := by
  have hzero {u : String} {i : ι} :
      Within occurs (part :: parts) u (toLex (0, i)) ↔ occurs part u i := by
    simp [Within]
  have hsucc {u : String} {n : ℕ} {i : ι} :
      Within occurs (part :: parts) u (toLex (n + 1, i)) ↔ Within occurs parts u (toLex (n, i)) :=
    Iff.rfl
  rw [precedes_within_iff, precedes_within_iff]
  -- The number of the part counts first: whatever is in the first part is before all the others.
  constructor
  · rintro ⟨n, i, hi, hbefore⟩
    cases n with
    | zero =>
      refine .inl ⟨i, hzero.1 hi, fun j hj => ?_⟩
      simpa using hbefore 0 j (hzero.2 hj)
    | succ n =>
      refine .inr ⟨?_, n, i, hsucc.1 hi, fun m j hj => ?_⟩
      · rintro ⟨j, hj⟩
        simpa using hbefore 0 j (hzero.2 hj)
      · simpa using hbefore (m + 1) j (hsucc.2 hj)
  · rintro (⟨i, hi, hbefore⟩ | ⟨hnone, n, i, hi, hbefore⟩)
    · refine ⟨0, i, hzero.2 hi, fun m j hj => ?_⟩
      cases m with
      | zero => exact .inr ⟨rfl, hbefore j (hzero.1 hj)⟩
      | succ m => exact .inl (Nat.succ_pos m)
    · refine ⟨n + 1, i, hsucc.2 hi, fun m j hj => ?_⟩
      cases m with
      | zero => exact absurd ⟨j, hzero.1 hj⟩ hnone
      | succ m => simpa using hbefore m j (hsucc.1 hj)

lemma Flattens.flatMap {texts : α → List String} (h : ∀ part, Flattens (occurs part) (texts part))
    (parts : List α) : Flattens (Within occurs parts) (parts.flatMap texts) where
  mem_iff s := by
    rw [List.mem_flatMap, exists_within_iff]
    exact exists_congr fun part => and_congr_right fun _ => (h part).mem_iff s
  precedes_iff s t := by
    induction parts with
    | nil => exact iff_of_false not_precedes_nil not_precedes_within_nil
    | cons part parts ih =>
      rw [List.flatMap_cons, precedes_append_iff, precedes_within_cons_iff, ih,
        (h part).mem_iff, (h part).precedes_iff]

/-! ## Types of elements and of relations -/

/-- The place of the name of an element. -/
def IsNameAt (elements : List Element) (s : String) (i : ℕ) : Prop :=
  ∃ e, elements[i]? = some e ∧ e.name = s

/-- The place of a type of relations: the number of a relationship, that of one of its properties
named `Type`, and that of one of the values allowed for the property. -/
def IsTypeAt (relationships : List Relationship) (s : String) (place : ℕ ×ₗ ℕ ×ₗ ℕ) : Prop :=
  ∃ i j k r p, place = toLex (i, toLex (j, k)) ∧ relationships[i]? = some r ∧
    r.properties[j]? = some p ∧ p.name = "Type" ∧ p.possibleValues[k]? = some s

lemma occursIn_names (elements : List Element) :
    OccursIn (elements.map (·.name)) = IsNameAt elements := by
  ext s i
  simp [OccursIn, IsNameAt]

/-- The place of a type of relations in a property. -/
def IsValueAt (p : Property) (s : String) (k : ℕ) : Prop :=
  p.name = "Type" ∧ OccursIn p.possibleValues s k

lemma isTypeAt_eq : IsTypeAt = Within fun r => Within IsValueAt r.properties := by
  ext relationships s place
  constructor
  · rintro ⟨i, j, k, r, p, rfl, hr, hp, hname, hs⟩
    exact ⟨r, hr, p, hp, hname, hs⟩
  · rintro ⟨r, hr, p, hp, hname, hs⟩
    exact ⟨_, _, _, r, p, rfl, hr, hp, hname, hs⟩

/-- The types of relations that a property gives. -/
def typesOf (p : Property) : List String :=
  if p.name = "Type" then p.possibleValues else []

lemma relationTypesOf_eq (relationships : List Relationship) :
    relationTypesOf relationships = relationships.flatMap fun r => r.properties.flatMap typesOf := by
  have hfilter (properties : List Property) :
      (properties.filter (·.name = relationTypeProperty)).flatMap (·.possibleValues) =
        properties.flatMap typesOf := by
    induction properties with
    | nil => rfl
    | cons p properties ih =>
      rw [List.filter_cons, List.flatMap_cons, ← ih]
      by_cases hname : p.name = relationTypeProperty
      · simp [typesOf, hname, relationTypeProperty]
      · have hname' : p.name ≠ "Type" := hname
        simp [typesOf, hname, hname']
  rw [relationTypesOf, List.filter_flatMap, List.flatMap_assoc]
  exact List.flatMap_congr fun r _ => hfilter r.properties

lemma flattens_typesOf (p : Property) : Flattens (IsValueAt p) (typesOf p) := by
  unfold typesOf IsValueAt
  split
  · rename_i hname
    simp only [hname, true_and]
    exact flattens_occursIn p.possibleValues
  · rename_i hname
    simp only [hname, false_and]
    refine ⟨fun s => by simp, fun s t => iff_of_false not_precedes_nil ?_⟩
    rintro ⟨i, hi, -⟩
    exact hi

lemma flattens_relationTypesOf (relationships : List Relationship) :
    Flattens (IsTypeAt relationships) (relationTypesOf relationships) := by
  rw [isTypeAt_eq, relationTypesOf_eq]
  exact .flatMap (fun r => .flatMap flattens_typesOf r.properties) relationships

/-- A language with types has a first document.  The types of elements are the names of the
elements, and those of relations are the values allowed for the properties named `Type` of all the
relationships; each of them is there once, in the order of their first places.  There are no
rules, no types of attributes and no types of hierarchies. -/
theorem initial_inFirstOrder {elements : List Element} {relationships : List Relationship}
    (h : ¬ (elements = [] ∧ relationships = [])) :
    ∃ d, initial elements relationships = .ok d ∧
      InFirstOrder (IsNameAt elements) d.elementTypes ∧
      InFirstOrder (IsTypeAt relationships) d.relationTypes ∧
      d.elementRules = .empty ∧ d.relationRules = .empty ∧ d.attributeRules = .empty ∧
      d.attributeTypes = [] ∧ d.hierarchyTypes = [] := by
  obtain ⟨d, hd⟩ := exists_initial h
  have hnames : Flattens (IsNameAt elements) (elements.map (·.name)) :=
    occursIn_names elements ▸ flattens_occursIn _
  refine ⟨d, hd, ?_⟩
  obtain rfl := eq_of_initial hd
  exact ⟨hnames.inFirstOrder, (flattens_relationTypesOf relationships).inFirstOrder, rfl, rfl, rfl,
    rfl, rfl⟩

/-- A language that names elements, properties and values more than once. -/
def repetitive : Model where
  elements := [⟨"Feature", 100, 50, [], .none⟩, ⟨"Root", 100, 50, [], .none⟩,
    ⟨"Feature", 20, 20, [], .none⟩]
  relationships :=
    [⟨"Tree", none, none, "Root", "Feature",
      [⟨"Type", "Select", "", ["Mandatory", "Optional", "Mandatory"], ""⟩,
        ⟨"Weight", "Select", "", ["Light", "Heavy"], ""⟩,
        ⟨"Type", "Select", "", ["Optional", "Excludes"], ""⟩], .none⟩,
     ⟨"Plain", none, none, "Feature", "Feature", [], .none⟩,
     ⟨"Cross", none, none, "Feature", "Feature",
      [⟨"Type", "Select", "", ["Excludes", "Implies"], ""⟩], .none⟩]
  restrictions := []

theorem initial_inFirstOrder_repetitive :
    ¬ (repetitive.elements = [] ∧ repetitive.relationships = []) ∧
      ∃ d, initial repetitive.elements repetitive.relationships = .ok d ∧
        d.elementTypes = ["Feature", "Root"] ∧
        d.relationTypes = ["Mandatory", "Optional", "Excludes", "Implies"] ∧
        InFirstOrder (IsNameAt repetitive.elements) ["Feature", "Root"] ∧
        InFirstOrder (IsTypeAt repetitive.relationships)
          ["Mandatory", "Optional", "Excludes", "Implies"] := by
  have hne : ¬ (repetitive.elements = [] ∧ repetitive.relationships = []) := by
    rintro ⟨hnone, -⟩
    cases hnone
  obtain ⟨d, hd, hnames, htypes, -⟩ := initial_inFirstOrder hne
  obtain rfl := eq_of_initial hd
  exact ⟨hne, _, hd, rfl, rfl, hnames, htypes⟩

end Atelier.Semantics

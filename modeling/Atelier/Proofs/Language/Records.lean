/-
Records of a language definition, read back from their values.

A field that is written only sometimes, such as a comment or a bound, comes back as what its
absence stands for.
-/
import Atelier.Proofs.Language.Legible
import Atelier.Proofs.Table

namespace Atelier

/-! ## Tables, bounds and fields -/

namespace Json

lemma table?_toJson {α : Type} {read : Json → Option α} {write : α → Json} {t : Table α}
    (h : ∀ entry ∈ t.entries, read (write entry.2) = some entry.2) :
    table? read (t.toJson write) = some t := by
  have hentries : (t.entries.map fun entry => (entry.1, write entry.2)).mapM
      (fun member => (read member.2).map (member.1, ·)) = some t.entries := by
    refine mapM_map_eq_some fun entry hentry => ?_
    rw [h entry hentry]
    rfl
  show ((t.entries.map fun entry => (entry.1, write entry.2)).mapM
    (fun member => (read member.2).map (member.1, ·))).bind
      (fun entries => some (.ofList entries)) = some t
  rw [hentries, Option.bind_some, Table.ofList_entries]

@[simp] lemma strings?_ofStrings (texts : List String) :
    strings? (.ofStrings texts) = some texts :=
  list?_map fun _ _ => rfl

@[simp] lemma word?_ofNat (n : UInt32) : word? (.ofNat n.toNat) = some n := by
  have hn : natural? UInt32.size (.ofNat n.toNat) = some n.toNat := if_pos n.toNat_lt
  rw [word?, hn, Option.map_some, UInt32.ofNat_toNat]

@[simp] lemma bound?_ofNat (n : UInt32) : bound? (.ofNat n.toNat) = some (some n) := by
  show (word? (.ofNat n.toNat)).map some = some (some n)
  rw [word?_ofNat, Option.map_some]

@[simp] lemma bound?_ofBound (bound : Option UInt32) : bound? (.ofBound bound) = some bound := by
  cases bound with
  | none => rfl
  | some n => exact bound?_ofNat n

lemma unlessEmpty_of_ne {α : Type} {name : String} {items : List α} {v : Json}
    (h : items ≠ []) : unlessEmpty name items v = [(name, v)] := by
  simp [unlessEmpty, h]

end Json

/-! ## Properties and markings -/

lemma Property.ofJson?_toJson (p : Property) : ofJson? p.toJson = some p := by
  obtain ⟨name, type, defaultValue, possibleValues, comment⟩ := p
  have hstrings := Json.strings?_ofStrings possibleValues
  rcases eq_or_ne possibleValues [] with rfl | hvalues <;>
    rcases eq_or_ne comment "" with rfl | hcomment
  · rfl
  · rw [toJson, Json.unlessEmpty_of_ne (mt String.toList_eq_nil_iff.1 hcomment)]
    rfl
  · rw [toJson, Json.unlessEmpty_of_ne hvalues]
    show (Json.strings? (.ofStrings possibleValues)).bind
      (fun values => some (mk name type defaultValue values "")) = _
    rw [hstrings]
    rfl
  · rw [toJson, Json.unlessEmpty_of_ne hvalues,
      Json.unlessEmpty_of_ne (mt String.toList_eq_nil_iff.1 hcomment)]
    show (Json.strings? (.ofStrings possibleValues)).bind
      (fun values => some (mk name type defaultValue values comment)) = _
    rw [hstrings]
    rfl

@[simp] lemma Property.list?_listJson (ps : List Property) : list? (listJson ps) = some ps :=
  Json.list?_map fun p _ => p.ofJson?_toJson

lemma Label.ofJson?_toJson (l : Label) : ofJson? l.toJson = some l := rfl

lemma Style.ofJson?_toJson (s : Style) : ofJson? s.toJson = some s := rfl

@[simp] lemma Label.list?_map (ls : List Label) :
    Json.list? ofJson? (.arr (ls.map toJson)) = some ls :=
  Json.list?_map fun l _ => l.ofJson?_toJson

@[simp] lemma Style.list?_map (ss : List Style) :
    Json.list? ofJson? (.arr (ss.map toJson)) = some ss :=
  Json.list?_map fun s _ => s.ofJson?_toJson

/-- A marking is read from its three fields, whatever other fields the record has. -/
lemma Marking.ofFields?_eq {m : Marking} {r : Json.Fields}
    (hlabelProperty : r "label_property" = some (.str m.labelProperty))
    (hlabels : r "labels" = some (.arr (m.labels.map Label.toJson)))
    (hstyles : r "styles" = some (.arr (m.styles.map Style.toJson))) :
    ofFields? r = some m := by
  simp only [ofFields?, Json.Fields.withDefault, hlabelProperty, hlabels, hstyles,
    Label.list?_map, Style.list?_map]
  rfl

lemma Marking.ofJson?_toJson (m : Marking) : ofJson? m.toJson = some m := by
  rw [ofJson?, toJson, Json.record?_obj rfl]
  show ofFields? (List.lookup · (m.labelPropertyField :: m.listFields)) = some m
  exact ofFields?_eq rfl rfl rfl

/-! ## Declarations and rules -/

lemma elementDeclaration?_json (properties : List Property) :
    elementDeclaration? (elementDeclarationJson properties) = some properties :=
  Property.list?_listJson properties

lemma Declaration.ofJson?_toJson (d : Declaration) : ofJson? d.toJson = some d := by
  obtain ⟨min, max, source, target, properties⟩ := d
  -- A bound that is missing and one that is there are found at different places.
  generalize hmembers : boundField "min" min ++ boundField "max" max ++ [("source", .str source),
    ("target", .str target), ("properties", Property.listJson properties)] = members
  have honce : Json.eachOnce ["min", "max", "source", "target", "properties"] members = true := by
    subst hmembers
    cases min <;> cases max <;> rfl
  have hmin : Json.Fields.withDefault (members.lookup ·) "min" none Json.bound? = some min := by
    subst hmembers
    cases min with
    | none => cases max <;> rfl
    | some n => exact Json.bound?_ofNat n
  have hmax : Json.Fields.withDefault (members.lookup ·) "max" none Json.bound? = some max := by
    subst hmembers
    cases max with
    | none => cases min <;> rfl
    | some n => cases min <;> exact Json.bound?_ofNat n
  have hsource : Json.Fields.required (members.lookup ·) "source" Json.string? = some source := by
    subst hmembers
    cases min <;> cases max <;> rfl
  have htarget : Json.Fields.required (members.lookup ·) "target" Json.string? = some target := by
    subst hmembers
    cases min <;> cases max <;> rfl
  have hproperties : Json.Fields.withDefault (members.lookup ·) "properties" [] Property.list? =
      some properties := by
    subst hmembers
    cases min <;> cases max <;> exact Property.list?_listJson properties
  rw [ofJson?, toJson, hmembers, Json.record?_obj honce]
  simp only [Option.bind_eq_bind, Option.bind_some, hmin, hmax, hsource, htarget, hproperties]

lemma ElementRule.ofJson?_toJson {rule : ElementRule} (hwidth : rule.width.isFinite = true)
    (hheight : rule.height.isFinite = true) : ofJson? rule.toJson = some rule := by
  generalize hmembers : [("width", .ofFloat rule.width), ("height", .ofFloat rule.height),
    rule.marking.labelPropertyField] ++ rule.marking.listFields = members
  have honce : Json.eachOnce ["width", "height", "label_property", "labels", "styles"]
      members = true := by
    subst hmembers
    rfl
  have hmarking : Marking.ofFields? (members.lookup ·) = some rule.marking := by
    subst hmembers
    exact Marking.ofFields?_eq rfl rfl rfl
  have hwidth' : Json.Fields.withDefault (members.lookup ·) "width" Element.defaultWidth
      Json.float? = some rule.width := by
    subst hmembers
    exact Json.float?_ofFloat hwidth
  have hheight' : Json.Fields.withDefault (members.lookup ·) "height" Element.defaultHeight
      Json.float? = some rule.height := by
    subst hmembers
    exact Json.float?_ofFloat hheight
  rw [ofJson?, toJson, hmembers, Json.record?_obj honce]
  simp only [Option.bind_eq_bind, Option.bind_some, hmarking, hwidth', hheight']

/-! ## Restrictions -/

namespace Restriction

lemma ofFields?_fields (r : Restriction) : ofFields? r.kind (.obj r.fields) = some r := by
  cases r with
  | uniqueName elements =>
    show (Json.strings? (.ofStrings elements)).bind (fun elements => some (uniqueName elements)) = _
    rw [Json.strings?_ofStrings]
    rfl
  | parentChild parent child => rfl
  | quantityElement element min max =>
    show (Json.bound? (.ofBound min)).bind (fun min =>
      (Json.bound? (.ofBound max)).bind fun max => some (quantityElement element min max)) = _
    rw [Json.bound?_ofBound, Json.bound?_ofBound]
    rfl

lemma ofJson?_toJson (r : Restriction) : ofJson? r.toJson = some r := by
  have hkind : (("type", .str r.kind) :: r.fields).filter (·.1 = "type") =
      [("type", .str r.kind)] := by
    cases r <;> rfl
  have hothers : (("type", .str r.kind) :: r.fields).filter (·.1 ≠ "type") = r.fields := by
    cases r <;> rfl
  have hlegible : Json.Legible 2 (.obj r.fields) := .obj fun _ => legible_of_mem_fields
  have hreadable := hlegible.readable
  simp only [ofJson?, toJson, hkind, hothers]
  rw [if_pos hreadable, ofFields?_fields]

end Restriction

end Atelier

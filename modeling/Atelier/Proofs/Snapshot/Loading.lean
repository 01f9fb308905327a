/-
When an XML snapshot is loaded, and what is reported of any other one.

A snapshot is checked in a fixed order: the root first, then one element in it after the other,
and of each of these one attribute after the other.  Each check is for a fault that there may be
(`UnexpectedElement`, `UnsupportedVersion`, `AttributeFormat.Fails`), and what is reported is the
first one in the list of them all (`FirstOf`, `snapshotFaults`).  Without a fault the elements in
the root are the shapes.  Anything else in it is passed over, and so is what these elements hold.
-/
import Atelier.Proofs.Snapshot.Resave
import Atelier.Proofs.Snapshot.Xml
import Atelier.Proofs.Xml.Root

namespace Atelier

open Xml (Attribute Node)
open Xml.Node (attribute?)

/-! ## The first of several faults -/

/-- Faults are looked for one after the other, and this is the first. -/
inductive FirstOf {ε : Type} : List (ε → Prop) → ε → Prop where
  | here {fault : ε → Prop} {rest : List (ε → Prop)} {e : ε} (found : fault e) :
    FirstOf (fault :: rest) e
  | later {fault : ε → Prop} {rest : List (ε → Prop)} {e : ε} (absent : ∀ e', ¬ fault e')
    (found : FirstOf rest e) : FirstOf (fault :: rest) e

/-- What is computed fails with the first of the faults, and only if there is one. -/
def Reports {ε α : Type} (x : Except ε α) (faults : List (ε → Prop)) : Prop :=
  ∀ e, x = .error e ↔ FirstOf faults e

section

variable {ε α β : Type} {fault : ε → Prop} {faults rest : List (ε → Prop)} {e : ε}
  {x : Except ε α} {f : α → Except ε β}

lemma not_firstOf_nil : ¬ FirstOf [] e := by
  rintro ⟨⟩

lemma firstOf_cons_iff :
    FirstOf (fault :: rest) e ↔ fault e ∨ (∀ e', ¬ fault e') ∧ FirstOf rest e := by
  constructor
  · intro h
    cases h with
    | here found => exact .inl found
    | later absent found => exact .inr ⟨absent, found⟩
  · rintro (found | ⟨absent, found⟩)
    · exact .here found
    · exact .later absent found

lemma firstOf_singleton_iff : FirstOf [fault] e ↔ fault e := by
  rw [firstOf_cons_iff, or_iff_left]
  exact fun h => not_firstOf_nil h.2

lemma firstOf_append_iff :
    FirstOf (faults ++ rest) e ↔
      FirstOf faults e ∨ (∀ e', ¬ FirstOf faults e') ∧ FirstOf rest e := by
  induction faults with
  | nil =>
    rw [List.nil_append, or_iff_right not_firstOf_nil,
      and_iff_right fun e' => not_firstOf_nil]
  | cons fault faults ih =>
    by_cases hfault : ∃ e', fault e'
    · -- Nothing after this fault is looked at in either list.
      obtain ⟨e', found⟩ := hfault
      have hpresent : ¬ ∀ e', ¬ fault e' := fun absent => absent e' found
      have hfirst : ¬ ∀ e', ¬ FirstOf (fault :: faults) e' := fun absent => absent e' (.here found)
      rw [or_iff_left fun h => hfirst h.1, List.cons_append, firstOf_cons_iff, firstOf_cons_iff,
        or_iff_left fun h => hpresent h.1, or_iff_left fun h => hpresent h.1]
    · rw [not_exists] at hfault
      have hcons (l : List (ε → Prop)) (e' : ε) : FirstOf (fault :: l) e' ↔ FirstOf l e' := by
        rw [firstOf_cons_iff, or_iff_right (hfault e'), and_iff_right hfault]
      rw [List.cons_append, hcons, ih]
      simp only [hcons]

lemma reports_ok (a : α) : Reports (.ok a : Except ε α) [] := by
  intro e
  rw [iff_false_right not_firstOf_nil]
  rintro ⟨⟩

/-- The faults of a second step come after those of the first one. -/
lemma Reports.bind (hx : Reports x faults) (hf : ∀ a, x = .ok a → Reports (f a) rest) :
    Reports (x >>= f) (faults ++ rest) := by
  intro e
  rw [firstOf_append_iff]
  cases x with
  | error e₀ =>
    have hfirst : FirstOf faults e₀ := (hx e₀).1 rfl
    rw [or_iff_left fun h => h.1 e₀ hfirst, ← hx e]
    exact ⟨fun h => by cases h; rfl, fun h => by cases h; rfl⟩
  | ok a =>
    have habsent : ∀ e', ¬ FirstOf faults e' := fun e' h => by cases (hx e').2 h
    rw [or_iff_right (habsent e), and_iff_right habsent]
    exact hf a rfl e

lemma Reports.map (hx : Reports x faults) (f : α → β) :
    Reports (x >>= fun a => .ok (f a)) faults := by
  have hbind : Reports (x >>= fun a => .ok (f a)) (faults ++ []) :=
    hx.bind fun a _ => reports_ok (f a)
  rwa [List.append_nil] at hbind

/-- A check that comes before everything else. -/
lemma Reports.guard {p : Prop} [Decidable p] {error : ε} (hfault : ∀ e, fault e ↔ p ∧ e = error)
    (hx : ¬ p → Reports x rest) :
    Reports (if p then .error error else x) (fault :: rest) := by
  intro e
  rw [firstOf_cons_iff]
  split
  · rename_i hp
    have hpresent : ¬ ∀ e', ¬ fault e' := fun absent => absent error ((hfault error).2 ⟨hp, rfl⟩)
    rw [or_iff_left fun h => hpresent h.1, hfault, and_iff_right hp, Except.error.injEq, eq_comm]
  · rename_i hp
    have habsent : ∀ e', ¬ fault e' := fun e' h => hp ((hfault e').1 h).1
    rw [or_iff_right (habsent e), and_iff_right habsent]
    exact hx hp e

end

/-! ## Attributes -/

/-- How an attribute is read. -/
structure AttributeFormat (α : Type) where
  name : String
  /-- What a missing attribute stands for, if it may be missing. -/
  standard? : Option α
  /-- The value that a text denotes. -/
  read? : String → Option α
  /-- What is reported of a text that denotes no value. -/
  fault : String → SnapshotError

namespace AttributeFormat

variable {α : Type} {format : AttributeFormat α} {attributes : List Attribute} {a : α}
  {e : SnapshotError}

/-- The attribute is there and has a value, or it is missing and stands for one. -/
inductive Gives (format : AttributeFormat α) (attributes : List Attribute) : α → Prop where
  | text {text : String} {a : α} (present : attribute? attributes format.name = some text)
    (denotes : format.read? text = some a) : Gives format attributes a
  | standard {a : α} (missing : attribute? attributes format.name = none)
    (standard : format.standard? = some a) : Gives format attributes a

/-- The attribute is missing and stands for nothing, or it has no value. -/
inductive Fails (format : AttributeFormat α) (attributes : List Attribute) :
    SnapshotError → Prop where
  | missing (missing : attribute? attributes format.name = none)
    (required : format.standard? = none) : Fails format attributes (.missingAttribute format.name)
  | unreadable {text : String} (present : attribute? attributes format.name = some text)
    (denotes : format.read? text = none) : Fails format attributes (format.fault text)

/-- The value that the attribute gives. -/
def read (format : AttributeFormat α) (attributes : List Attribute) : Except SnapshotError α :=
  match attribute? attributes format.name with
  | some text => (format.read? text).elim (.error (format.fault text)) .ok
  | none => format.standard?.elim (.error (.missingAttribute format.name)) .ok

/-- Either the attribute gives the value that is read, or it fails as is reported. -/
lemma read_cases (format : AttributeFormat α) (attributes : List Attribute) :
    (∃ a, format.Gives attributes a ∧ format.read attributes = .ok a) ∨
      ∃ e, format.Fails attributes e ∧ format.read attributes = .error e := by
  unfold read
  cases present : attribute? attributes format.name with
  | some text =>
    cases denotes : format.read? text with
    | some a => exact .inl ⟨a, .text present denotes, by simp only [denotes, Option.elim_some]⟩
    | none =>
      exact .inr ⟨_, .unreadable present denotes, by simp only [denotes, Option.elim_none]⟩
  | none =>
    cases standard : format.standard? with
    | some a => exact .inl ⟨a, .standard present standard, rfl⟩
    | none => exact .inr ⟨_, .missing present standard, rfl⟩

lemma read_eq_ok_iff : format.read attributes = .ok a ↔ format.Gives attributes a := by
  constructor
  · intro h
    rcases format.read_cases attributes with ⟨b, hb, hread⟩ | ⟨e, -, hread⟩
    · rw [hread] at h
      obtain rfl := Except.ok.inj h
      exact hb
    · rw [hread] at h
      cases h
  · intro h
    cases h with
    | text present denotes => simp only [read, present, denotes, Option.elim_some]
    | standard missing standard => simp only [read, missing, standard, Option.elim_some]

/-- An attribute gives one value only. -/
lemma Gives.unique {a' : α} (h : format.Gives attributes a) (h' : format.Gives attributes a') :
    a = a' := by
  rw [← read_eq_ok_iff] at h h'
  exact Except.ok.inj (h.symm.trans h')

lemma read_eq_error_iff : format.read attributes = .error e ↔ format.Fails attributes e := by
  constructor
  · intro h
    rcases format.read_cases attributes with ⟨a, -, hread⟩ | ⟨e', he', hread⟩
    · rw [hread] at h
      cases h
    · rw [hread] at h
      obtain rfl := Except.error.inj h
      exact he'
  · intro h
    cases h with
    | missing missing required => simp only [read, missing, required, Option.elim_none]
    | unreadable present denotes => simp only [read, present, denotes, Option.elim_none]

lemma exists_of_read_bind {β : Type} {f : α → Except SnapshotError β} {b : β}
    (h : format.read attributes >>= f = .ok b) :
    ∃ a, format.Gives attributes a ∧ f a = .ok b := by
  obtain ⟨a, ha, h⟩ := exists_of_bind_eq_ok h
  exact ⟨a, read_eq_ok_iff.1 ha, h⟩

/-- Reading an attribute is a step with only one possible fault. -/
lemma reports_read_bind {β : Type} {f : α → Except SnapshotError β}
    {rest : List (SnapshotError → Prop)}
    (hf : ∀ a, format.Gives attributes a → Reports (f a) rest) :
    Reports (format.read attributes >>= f) (format.Fails attributes :: rest) := by
  have hread : Reports (format.read attributes) [format.Fails attributes] := fun e =>
    read_eq_error_iff.trans firstOf_singleton_iff.symm
  exact hread.bind fun a ha => hf a (read_eq_ok_iff.1 ha)

/-- An attribute that may not be missing is looked up, and then read. -/
lemma read_eq_bind (format : AttributeFormat α) (attributes : List Attribute)
    (h : format.standard? = none) :
    format.read attributes = requiredAttribute attributes format.name >>= fun text =>
      (format.read? text).elim (.error (format.fault text)) .ok := by
  unfold read requiredAttribute
  cases attribute? attributes format.name with
  | none => rw [h]; rfl
  | some text => rfl

end AttributeFormat

/-! ## Shapes -/

/-- An identifier, which a shape has to have. -/
def ShapeId.format : AttributeFormat ShapeId :=
  ⟨"id", none, ShapeId.parse?, .invalidId⟩

/-- The kind, which a shape has to have. -/
def ShapeKind.format : AttributeFormat ShapeKind :=
  ⟨"kind", none, ShapeKind.ofName?, .unknownKind⟩

/-- The slope, without which a line descends. -/
def Slope.format : AttributeFormat Slope :=
  ⟨"slope", some .descending, Slope.ofName?, .unknownSlope⟩

/-- A number, with white space around it or not. -/
def numberFormat (name : String) (standard? : Option Float) : AttributeFormat Float :=
  ⟨name, standard?, fun text => readFloat? (trim text.toList), .invalidNumber name⟩

/-- The version of a snapshot, for which there are 32 bits. -/
def versionFormat : AttributeFormat Nat :=
  ⟨"version", none, fun text => readUnsigned? UInt32.size text.toList, .invalidNumber "version"⟩

lemma attributeNumber_eq (name text : String) :
    attributeNumber name text =
      (readFloat? (trim text.toList)).elim (.error (.invalidNumber name text)) .ok := by
  unfold attributeNumber
  cases readFloat? (trim text.toList) <;> rfl

lemma requiredNumber_eq (attributes : List Attribute) (name : String) :
    requiredNumber attributes name = (numberFormat name none).read attributes := by
  rw [(numberFormat name none).read_eq_bind attributes rfl, requiredNumber]
  exact bind_congr fun text => attributeNumber_eq name text

lemma versionOfAttributes_eq (attributes : List Attribute) :
    versionOfAttributes attributes = versionFormat.read attributes := by
  rw [versionFormat.read_eq_bind attributes rfl, versionOfAttributes]
  refine bind_congr fun text => ?_
  change _ = (readUnsigned? UInt32.size text.toList).elim _ _
  cases readUnsigned? UInt32.size text.toList <;> rfl

namespace Shape

variable {attributes : List Attribute} {s : Shape Float}

/-- The shape has the values of the attributes. -/
structure Described (attributes : List Attribute) (s : Shape Float) : Prop where
  id : ShapeId.format.Gives attributes s.id
  kind : ShapeKind.format.Gives attributes s.kind
  slope : Slope.format.Gives attributes s.slope
  lineWidth : (numberFormat "line-width" (some 2)).Gives attributes s.paint.lineWidth
  x : (numberFormat "x" none).Gives attributes s.x
  y : (numberFormat "y" none).Gives attributes s.y
  width : (numberFormat "width" none).Gives attributes s.width
  height : (numberFormat "height" none).Gives attributes s.height
  rotation : (numberFormat "rotation" none).Gives attributes s.rotation
  fill : s.paint.fill = (attribute? attributes "fill").getD "transparent"
  stroke : s.paint.stroke = (attribute? attributes "stroke").getD "#000000"

/-- The faults that the attributes of a shape may have, in the order in which they are looked
for. -/
def faults (attributes : List Attribute) : List (SnapshotError → Prop) :=
  [ShapeId.format.Fails attributes, ShapeKind.format.Fails attributes,
    Slope.format.Fails attributes, (numberFormat "line-width" (some 2)).Fails attributes,
    (numberFormat "x" none).Fails attributes, (numberFormat "y" none).Fails attributes,
    (numberFormat "width" none).Fails attributes, (numberFormat "height" none).Fails attributes,
    (numberFormat "rotation" none).Fails attributes]

/-- The attributes are read one after the other. -/
lemma ofAttributes_eq (attributes : List Attribute) :
    ofAttributes attributes = (do
      let id ← ShapeId.format.read attributes
      let kind ← ShapeKind.format.read attributes
      let slope ← Slope.format.read attributes
      let lineWidth ← (numberFormat "line-width" (some 2)).read attributes
      let x ← (numberFormat "x" none).read attributes
      let y ← (numberFormat "y" none).read attributes
      let width ← (numberFormat "width" none).read attributes
      let height ← (numberFormat "height" none).read attributes
      let rotation ← (numberFormat "rotation" none).read attributes
      return { id, kind, x, y, width, height, rotation, slope,
               paint := ⟨(attribute? attributes "fill").getD "transparent",
                (attribute? attributes "stroke").getD "#000000", lineWidth⟩ }) := by
  have hslope : Slope.format.read attributes = match attribute? attributes "slope" with
      | some name => (Slope.ofName? name).elim (.error (.unknownSlope name)) .ok
      | none => .ok .descending := rfl
  have hline : (numberFormat "line-width" (some 2)).read attributes =
      match attribute? attributes "line-width" with
      | some text =>
        (readFloat? (trim text.toList)).elim (.error (.invalidNumber "line-width" text)) .ok
      | none => .ok 2 := rfl
  unfold ofAttributes
  rw [ShapeId.format.read_eq_bind attributes rfl, ShapeKind.format.read_eq_bind attributes rfl,
    hslope, hline]
  simp only [bind_assoc, requiredNumber_eq, attributeNumber_eq]
  cases attribute? attributes "slope" <;> cases attribute? attributes "line-width" <;> rfl

lemma ofAttributes_eq_ok_iff : ofAttributes attributes = .ok s ↔ Described attributes s := by
  rw [ofAttributes_eq]
  constructor
  · intro h
    obtain ⟨id, hid, h⟩ := AttributeFormat.exists_of_read_bind h
    obtain ⟨kind, hkind, h⟩ := AttributeFormat.exists_of_read_bind h
    obtain ⟨slope, hslope, h⟩ := AttributeFormat.exists_of_read_bind h
    obtain ⟨lineWidth, hlineWidth, h⟩ := AttributeFormat.exists_of_read_bind h
    obtain ⟨x, hx, h⟩ := AttributeFormat.exists_of_read_bind h
    obtain ⟨y, hy, h⟩ := AttributeFormat.exists_of_read_bind h
    obtain ⟨width, hwidth, h⟩ := AttributeFormat.exists_of_read_bind h
    obtain ⟨height, hheight, h⟩ := AttributeFormat.exists_of_read_bind h
    obtain ⟨rotation, hrotation, h⟩ := AttributeFormat.exists_of_read_bind h
    obtain rfl := Except.ok.inj h
    exact ⟨hid, hkind, hslope, hlineWidth, hx, hy, hwidth, hheight, hrotation, rfl, rfl⟩
  · intro h
    have hread {α : Type} {format : AttributeFormat α} {a : α} (h : format.Gives attributes a) :
        format.read attributes = .ok a := AttributeFormat.read_eq_ok_iff.2 h
    rw [hread h.id, ok_bind, hread h.kind, ok_bind, hread h.slope, ok_bind, hread h.lineWidth,
      ok_bind, hread h.x, ok_bind, hread h.y, ok_bind, hread h.width, ok_bind, hread h.height,
      ok_bind, hread h.rotation, ok_bind, ← h.fill, ← h.stroke]
    rfl

/-- What is reported is the first fault that the attributes have. -/
lemma reports_ofAttributes (attributes : List Attribute) :
    Reports (ofAttributes attributes) (faults attributes) := by
  rw [ofAttributes_eq, faults]
  refine AttributeFormat.reports_read_bind fun id _ => ?_
  refine AttributeFormat.reports_read_bind fun kind _ => ?_
  refine AttributeFormat.reports_read_bind fun slope _ => ?_
  refine AttributeFormat.reports_read_bind fun lineWidth _ => ?_
  refine AttributeFormat.reports_read_bind fun x _ => ?_
  refine AttributeFormat.reports_read_bind fun y _ => ?_
  refine AttributeFormat.reports_read_bind fun width _ => ?_
  refine AttributeFormat.reports_read_bind fun height _ => ?_
  refine AttributeFormat.reports_read_bind fun rotation _ => ?_
  exact reports_ok _

end Shape

/-! ## Documents -/

/-- The names and the attributes of the elements among nodes. -/
def Xml.Node.elements (nodes : List Node) : List (String × List Attribute) :=
  nodes.filterMap fun
    | .element name attributes _ => some (name, attributes)
    | _ => none

/-- The fault that an element has another name. -/
def UnexpectedElement (expected name : String) (e : SnapshotError) : Prop :=
  name ≠ expected ∧ e = .unexpectedElement name

/-- The fault that there is a version, and that it is another one. -/
def UnsupportedVersion (attributes : List Attribute) (e : SnapshotError) : Prop :=
  ∃ version, versionFormat.Gives attributes version ∧ version ≠ 1 ∧
    e = .unsupportedVersion version

/-- The faults that an element in the root may have, in the order in which they are looked for. -/
def elementFaults (element : String × List Attribute) : List (SnapshotError → Prop) :=
  UnexpectedElement "shape" element.1 :: Shape.faults element.2

/-- The faults that a snapshot may have, in the order in which they are looked for. -/
def snapshotFaults (name : String) (attributes : List Attribute) (children : List Node) :
    List (SnapshotError → Prop) :=
  UnexpectedElement "shapes" name :: versionFormat.Fails attributes ::
    UnsupportedVersion attributes :: (Node.elements children).flatMap elementFaults

/-- The element is that of a shape, which is normalized when it is loaded. -/
def LoadedAs (element : String × List Attribute) (s : Shape Float) : Prop :=
  element.1 = "shape" ∧ ∃ stored, Shape.Described element.2 stored ∧ s = stored.normalize

section

variable {name : String} {attributes : List Attribute} {children nodes : List Node}
  {shapes : List (Shape Float)}

lemma elements_cons_element :
    Node.elements (.element name attributes children :: nodes) =
      (name, attributes) :: Node.elements nodes := rfl

/-- Only elements are looked at, and not what they hold. -/
lemma shapesOfNodes_element :
    shapesOfNodes (.element name attributes children :: nodes) =
      if name ≠ "shape" then .error (.unexpectedElement name)
      else do
        let s ← Shape.ofAttributes attributes
        let shapes ← shapesOfNodes nodes
        return s.normalize :: shapes := by
  rw [shapesOfNodes]
  split
  · rfl
  · rfl

/-- One shape is loaded for each element, in the same order. -/
lemma shapesOfNodes_eq_ok_iff :
    shapesOfNodes nodes = .ok shapes ↔ List.Forall₂ LoadedAs (Node.elements nodes) shapes := by
  induction nodes generalizing shapes with
  | nil =>
    have hnil : Node.elements [] = [] := rfl
    rw [shapesOfNodes, Except.ok.injEq, hnil, List.forall₂_nil_left_iff, eq_comm]
  | cons node nodes ih =>
    cases node with
    | element name attributes children =>
      rw [shapesOfNodes_element, elements_cons_element, List.forall₂_cons_left_iff]
      constructor
      · intro h
        split at h
        · cases h
        · rename_i hname
          obtain ⟨stored, hstored, h⟩ := exists_of_bind_eq_ok h
          obtain ⟨rest, hrest, h⟩ := exists_of_bind_eq_ok h
          obtain rfl := Except.ok.inj h
          exact ⟨stored.normalize, rest,
            ⟨not_not.1 hname, stored, Shape.ofAttributes_eq_ok_iff.1 hstored, rfl⟩, ih.1 hrest, rfl⟩
      · rintro ⟨_, rest, ⟨hname, stored, hstored, rfl⟩, hrest, rfl⟩
        rw [if_neg (not_not.2 hname), Shape.ofAttributes_eq_ok_iff.2 hstored, ok_bind,
          ih.2 hrest, ok_bind]
        rfl
    | _ => exact ih

/-- What is reported is the first fault of the first element that has one. -/
lemma reports_shapesOfNodes (nodes : List Node) :
    Reports (shapesOfNodes nodes) ((Node.elements nodes).flatMap elementFaults) := by
  induction nodes with
  | nil => exact reports_ok _
  | cons node nodes ih =>
    cases node with
    | element name attributes children =>
      rw [shapesOfNodes_element, elements_cons_element, List.flatMap_cons, elementFaults,
        List.cons_append]
      refine .guard (fun e => Iff.rfl) fun _ => ?_
      refine (Shape.reports_ofAttributes attributes).bind fun s _ => ?_
      exact ih.map _
    | _ => exact ih

end

namespace Sheet

variable {name : String} {attributes : List Attribute} {children : List Node}
  {sheet : Sheet Float}

/-- The checks of the root come before those of the elements in it. -/
lemma ofXml_element (name : String) (attributes : List Attribute) (children : List Node) :
    ofXml name attributes children =
      if name ≠ "shapes" then .error (.unexpectedElement name)
      else versionFormat.read attributes >>= fun version =>
        if version ≠ 1 then .error (.unsupportedVersion version)
        else shapesOfNodes children >>= fun shapes => .ok ⟨shapes⟩ := by
  rw [ofXml, versionOfAttributes_eq]
  split
  · rfl
  · refine bind_congr fun version => ?_
    unfold snapshotVersion
    split
    · rfl
    · rfl

lemma ofXml_eq_ok_iff :
    ofXml name attributes children = .ok sheet ↔
      name = "shapes" ∧ versionFormat.Gives attributes 1 ∧
        List.Forall₂ LoadedAs (Node.elements children) sheet.shapes := by
  rw [ofXml_element]
  constructor
  · intro h
    split at h
    · cases h
    · rename_i hname
      obtain ⟨version, hversion, h⟩ := AttributeFormat.exists_of_read_bind h
      split at h
      · cases h
      · rename_i hone
        obtain ⟨shapes, hshapes, h⟩ := exists_of_bind_eq_ok h
        obtain rfl := Except.ok.inj h
        rw [not_not] at hname hone
        exact ⟨hname, hone ▸ hversion, shapesOfNodes_eq_ok_iff.1 hshapes⟩
  · rintro ⟨hname, hversion, hshapes⟩
    rw [if_neg (not_not.2 hname), AttributeFormat.read_eq_ok_iff.2 hversion, ok_bind,
      if_neg (not_not.2 rfl), shapesOfNodes_eq_ok_iff.2 hshapes]
    rfl

lemma reports_ofXml (name : String) (attributes : List Attribute) (children : List Node) :
    Reports (ofXml name attributes children)
      (snapshotFaults name attributes children) := by
  rw [ofXml_element, snapshotFaults]
  refine .guard (fun e => Iff.rfl) fun _ => ?_
  refine AttributeFormat.reports_read_bind fun version hversion => ?_
  refine .guard (fun e => ?_) fun _ => ?_
  · constructor
    · rintro ⟨version', hversion', hother, rfl⟩
      obtain rfl := hversion.unique hversion'
      exact ⟨hother, rfl⟩
    · rintro ⟨hother, rfl⟩
      exact ⟨version, hversion, hother, rfl⟩
  · exact (reports_shapesOfNodes children).map _

/-- The root is named for the shapes and states the version of the format, and each element in it
is named for a shape and describes one. -/
structure Loadable (name : String) (attributes : List Attribute) (children : List Node) :
    Prop where
  name : name = "shapes"
  version : versionFormat.Gives attributes 1
  elements : ∀ element ∈ Node.elements children,
    element.1 = "shape" ∧ ∃ s, Shape.Described element.2 s

lemma exists_forall₂_loadedAs_iff {elements : List (String × List Attribute)} :
    (∃ shapes, List.Forall₂ LoadedAs elements shapes) ↔
      ∀ element ∈ elements, element.1 = "shape" ∧ ∃ s, Shape.Described element.2 s := by
  induction elements with
  | nil => exact ⟨fun _ => by simp, fun _ => ⟨[], .nil⟩⟩
  | cons element elements ih =>
    rw [List.forall_mem_cons, ← ih]
    constructor
    · rintro ⟨_, _ | ⟨⟨hname, stored, hstored, -⟩, hrest⟩⟩
      exact ⟨⟨hname, stored, hstored⟩, _, hrest⟩
    · rintro ⟨⟨hname, stored, hstored⟩, shapes, hrest⟩
      exact ⟨stored.normalize :: shapes, .cons ⟨hname, stored, hstored, rfl⟩ hrest⟩

lemma exists_ofXml_iff :
    (∃ sheet, ofXml name attributes children = .ok sheet) ↔
      Loadable name attributes children := by
  simp only [ofXml_eq_ok_iff]
  constructor
  · rintro ⟨sheet, hname, hversion, hshapes⟩
    exact ⟨hname, hversion, exists_forall₂_loadedAs_iff.1 ⟨sheet.shapes, hshapes⟩⟩
  · intro h
    obtain ⟨shapes, hshapes⟩ := exists_forall₂_loadedAs_iff.2 h.elements
    exact ⟨⟨shapes⟩, h.name, h.version, hshapes⟩

/-- The root of every document is an element.  The snapshot is loaded exactly if the root and all
elements in it are in order, with one normalized shape for each of them, and otherwise the first
fault is reported. -/
theorem ofXmlText_iff {text : String} {root : Node} (h : Xml.parse text = some root) :
    ∃ name attributes children, root = .element name attributes children ∧
      ((∃ sheet, ofXmlText text = .ok sheet) ↔ Loadable name attributes children) ∧
      (∀ sheet, ofXmlText text = .ok sheet ↔ name = "shapes" ∧ versionFormat.Gives attributes 1 ∧
        List.Forall₂ LoadedAs (Node.elements children) sheet.shapes) ∧
      ∀ e, ofXmlText text = .error e ↔ FirstOf (snapshotFaults name attributes children) e := by
  obtain ⟨name, attributes, children⟩ := Xml.isElement_of_parse h
  have htext : ofXmlText text = ofXml name attributes children := by
    rw [ofXmlText, h]
  refine ⟨name, attributes, children, rfl, ?_⟩
  rw [htext]
  exact ⟨exists_ofXml_iff, fun sheet => ofXml_eq_ok_iff, reports_ofXml name attributes children⟩

/-- A line that is drawn to the left, with remarks before it and inside it. -/
def annotatedText : String :=
  "<shapes version='+1'>a line<!----><shape id='00000000-0000-0000-0000-000000000001' " ++
    "kind='line' slope='ascending' x=' 8 ' y='1' width='-3' height='2' rotation='0'>" ++
    "<circle/></shape></shapes>"

/-- The line in that text. -/
def annotated : Sheet Float :=
  ⟨[⟨.ofNat 1, .line, 5, 1, 3, 2, 0, .ascending, .default⟩]⟩

/-- A shape in order, one with a kind and faults in its other attributes, and no shape at all. -/
def faultyText : String :=
  "<shapes version='1'><shape id='00000000-0000-0000-0000-000000000001' kind='line' x='8' " ++
    "y='1' width='3' height='2' rotation='0'/><shape id='00000000-0000-0000-0000-000000000002' " ++
    "rotation='left' slope='steep' kind='line'/><circle/></shapes>"

lemma ofXmlText_annotatedText : ofXmlText annotatedText = .ok annotated := by
  decide +kernel

lemma ofXmlText_faultyText : ofXmlText faultyText = .error (.unknownSlope "steep") := by
  decide +kernel

/-- A text has a root if anything else is the outcome than that it is no XML. -/
lemma exists_root_of_ofXmlText {text : String} (h : ofXmlText text ≠ .error (.xml text)) :
    ∃ root, Xml.parse text = some root := by
  cases hparse : Xml.parse text with
  | none =>
    rw [ofXmlText, hparse] at h
    exact (h rfl).elim
  | some root => exact ⟨root, rfl⟩

theorem ofXmlText_iff_annotated :
    (∃ name attributes children, Loadable name attributes children ∧
      Xml.parse annotatedText = some (.element name attributes children) ∧
      List.Forall₂ LoadedAs (Node.elements children) annotated.shapes) ∧
    ∃ name attributes children,
      Xml.parse faultyText = some (.element name attributes children) ∧
      FirstOf (snapshotFaults name attributes children) (.unknownSlope "steep") := by
  have hannotated : ofXmlText annotatedText ≠ .error (.xml annotatedText) := by
    rw [ofXmlText_annotatedText]
    rintro ⟨⟩
  have hfaulty : ofXmlText faultyText ≠ .error (.xml faultyText) := by
    rw [ofXmlText_faultyText]
    rintro ⟨⟩
  constructor
  · obtain ⟨root, hroot⟩ := exists_root_of_ofXmlText hannotated
    obtain ⟨name, attributes, children, rfl, hloadable, hok, -⟩ := ofXmlText_iff hroot
    obtain ⟨-, -, hshapes⟩ := (hok annotated).1 ofXmlText_annotatedText
    exact ⟨name, attributes, children, hloadable.1 ⟨_, ofXmlText_annotatedText⟩, hroot, hshapes⟩
  · obtain ⟨root, hroot⟩ := exists_root_of_ofXmlText hfaulty
    obtain ⟨name, attributes, children, rfl, -, -, herror⟩ := ofXmlText_iff hroot
    exact ⟨name, attributes, children, hroot, (herror _).1 ofXmlText_faultyText⟩

end Sheet

end Atelier

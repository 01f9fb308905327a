/-
What a typed document is read from.

Each field of a record that was read stands in the value, and so does each entry of a list or a
table.  What is known about the value of a text is thereby known about its parts, in particular
that its numbers are finite (`isFinite_of_float?`).
-/
import Atelier.Json.Decode
import Atelier.Proofs.Decimal.Finite
import Atelier.Proofs.Json.Depth
import Atelier.Proofs.Table

namespace Atelier.Json

variable {α : Type} {room : Nat} {v w : Json} {read : Json → Option α}

/-! ## Numbers -/

lemma Number.isFinite_toFloat {n : Number} (h : n.Valid) : n.toFloat.isFinite = true := by
  cases n with
  | natural n => exact isFinite_ofNat h
  | negative n =>
    have hlt : n < 2 ^ 64 := lt_of_le_of_lt h.2 (by decide)
    exact isFinite_neg (isFinite_ofNat hlt)
  | float x => exact h

/-- A number that is read is finite. -/
lemma isFinite_of_float? {x : Float} (hv : Bounded room v) (h : float? v = some x) :
    x.isFinite = true := by
  cases hv with
  | num valid =>
    obtain rfl := Option.some.inj h
    exact Number.isFinite_toFloat valid
  | _ => cases h

/-! ## Lists and tables -/

/-- What is read item by item is read from the items, and all of them are read. -/
lemma exists_of_mapM {β : Type} {f : β → Option α} {l : List β} {as : List α}
    (h : l.mapM f = some as) :
    (∀ a ∈ as, ∃ b ∈ l, f b = some a) ∧ ∀ b ∈ l, ∃ a ∈ as, f b = some a := by
  induction l generalizing as with
  | nil =>
    obtain rfl := Option.some.inj h
    simp
  | cons b l ih =>
    rw [List.mapM_cons] at h
    obtain ⟨a, ha, hrest⟩ := Option.bind_eq_some_iff.1 h
    obtain ⟨as', has', heq⟩ := Option.bind_eq_some_iff.1 hrest
    obtain rfl := Option.some.inj heq
    obtain ⟨hfrom, hall⟩ := ih has'
    constructor
    · intro a' ha'
      rcases List.mem_cons.1 ha' with rfl | ha'
      · exact ⟨b, by simp, ha⟩
      · obtain ⟨b', hb', hread⟩ := hfrom a' ha'
        exact ⟨b', by simp [hb'], hread⟩
    · intro b' hb'
      rcases List.mem_cons.1 hb' with rfl | hb'
      · exact ⟨a, by simp, ha⟩
      · obtain ⟨a', ha', hread⟩ := hall b' hb'
        exact ⟨a', by simp [ha'], hread⟩

/-- Every item of a list is read from a part of the value. -/
lemma exists_of_mem_list? {items : List α} (hv : Bounded (room + 1) v)
    (h : list? read v = some items) : ∀ a ∈ items, ∃ w, Bounded room w ∧ read w = some a := by
  cases hv with
  | arr hitems =>
    intro a ha
    obtain ⟨w, hw, hread⟩ := (exists_of_mapM h).1 a ha
    exact ⟨w, hitems w hw, hread⟩
  | _ => cases h

/-- Every entry of a table is read from a part of the value. -/
lemma exists_of_mem_table? {t : Table α} (hv : Bounded (room + 1) v)
    (h : table? read v = some t) :
    ∀ entry ∈ t.entries, ∃ w, Bounded room w ∧ read w = some entry.2 := by
  cases hv with
  | obj hmembers =>
    obtain ⟨entries, hentries, heq⟩ := Option.bind_eq_some_iff.1 h
    obtain rfl := Option.some.inj heq
    intro entry hentry
    obtain ⟨⟨name, w⟩, hw, hread⟩ :=
      (exists_of_mapM hentries).1 entry (Table.mem_of_mem_ofList hentry)
    obtain ⟨a, ha, rfl⟩ := Option.map_eq_some_iff.1 hread
    exact ⟨w, hmembers _ hw, ha⟩
  | _ => cases h

/-! ## Records -/

/-- A field stands in the value of the record, whichever of its two forms that has. -/
lemma bounded_of_record? {names : List String} {fields : Fields} {name : String}
    (hv : Bounded (room + 1) v) (h : record? names v = some fields)
    (hfield : fields name = some w) : Bounded room w := by
  cases hv with
  | obj hmembers =>
    obtain ⟨-, hfields⟩ := Option.ite_none_right_eq_some.1 h
    obtain rfl := Option.some.inj hfields
    exact hmembers (name, w) (Table.mem_of_lookup hfield)
  | arr hitems =>
    obtain ⟨-, hfields⟩ := Option.ite_none_right_eq_some.1 h
    obtain rfl := Option.some.inj hfields
    exact hitems w (List.of_mem_zip (Table.mem_of_lookup hfield)).2
  | _ => cases h

/-- A field that has to be there is read from a part of the record. -/
lemma exists_of_required {names : List String} {fields : Fields} {name : String} {a : α}
    (hv : Bounded (room + 1) v) (h : record? names v = some fields)
    (hfield : fields.required name read = some a) : ∃ w, Bounded room w ∧ read w = some a := by
  obtain ⟨w, hw, hread⟩ := Option.bind_eq_some_iff.1 hfield
  exact ⟨w, bounded_of_record? hv h hw, hread⟩

/-- A field that may be missing is its default or read from a part of the record. -/
lemma eq_or_exists_of_withDefault {names : List String} {fields : Fields} {name : String}
    {a default : α} (hv : Bounded (room + 1) v) (h : record? names v = some fields)
    (hfield : fields.withDefault name default read = some a) :
    a = default ∨ ∃ w, Bounded room w ∧ read w = some a := by
  unfold Fields.withDefault at hfield
  split at hfield
  · exact .inl (Option.some.inj hfield).symm
  · rename_i w hw
    exact .inr ⟨w, bounded_of_record? hv h hw, hfield⟩

/-- A number among the fields that have to be there is finite. -/
lemma isFinite_of_required {names : List String} {fields : Fields} {name : String} {x : Float}
    (hv : Bounded (room + 1) v) (h : record? names v = some fields)
    (hfield : fields.required name float? = some x) : x.isFinite = true := by
  obtain ⟨w, hw, hread⟩ := exists_of_required hv h hfield
  exact isFinite_of_float? hw hread

/-- A number among the fields is finite if its default is. -/
lemma isFinite_of_withDefault {names : List String} {fields : Fields} {name : String}
    {x default : Float} (hv : Bounded (room + 1) v) (h : record? names v = some fields)
    (hdefault : default.isFinite = true)
    (hfield : fields.withDefault name default float? = some x) : x.isFinite = true := by
  rcases eq_or_exists_of_withDefault hv h hfield with rfl | ⟨w, hw, hread⟩
  · exact hdefault
  · exact isFinite_of_float? hw hread

end Atelier.Json

/-
Values that are written and read again.

A double need not be read again as the double that was written, and so a value need not be read
again as itself.  `Json.reread` is what is read: the same value with other doubles in it.  A
reader that looks at no double does not notice (`Unaware`).
-/
import Mathlib.Tactic.Common
import Atelier.Proofs.Json.Members
import Atelier.Proofs.Json.Numbers

namespace Atelier.Json

mutual

/-- The value that is read for the text of a value. -/
def reread : Json → Json
  | .num n => .num n.reread
  | .arr items => .arr (rereadItems items)
  | .obj members => .obj (rereadMembers members)
  | v => v

/-- The items that are read for the texts of items. -/
def rereadItems : List Json → List Json
  | [] => []
  | v :: rest => reread v :: rereadItems rest

/-- The members that are read for the texts of members. -/
def rereadMembers : List (String × Json) → List (String × Json)
  | [] => []
  | (k, v) :: rest => (k, reread v) :: rereadMembers rest

end

/-- A value is read from its text as it is. -/
def ReadsBack (v : Json) : Prop :=
  v.reread = v

variable {α : Type} {v : Json} {items : List Json} {members : List (String × Json)}

/-! ## Items and members -/

lemma rereadItems_eq_map (items : List Json) : rereadItems items = items.map reread := by
  induction items with
  | nil => rfl
  | cons v items ih => rw [rereadItems, ih, List.map_cons]

lemma rereadMembers_eq_map (members : List (String × Json)) :
    rereadMembers members = members.map fun member => (member.1, member.2.reread) := by
  induction members with
  | nil => rfl
  | cons member members ih => rw [rereadMembers, ih, List.map_cons]

lemma reread_arr (items : List Json) : (arr items).reread = .arr (items.map reread) := by
  rw [reread, rereadItems_eq_map]

@[simp] lemma reread_map (write : α → Json) (items : List α) :
    (arr (items.map write)).reread = .arr (items.map fun a => (write a).reread) := by
  rw [reread_arr, List.map_map]
  rfl

lemma reread_obj (members : List (String × Json)) :
    (obj members).reread = .obj (members.map fun member => (member.1, member.2.reread)) := by
  rw [reread, rereadMembers_eq_map]

lemma get?_rereadMembers (key : String) (members : List (String × Json)) :
    get? key (rereadMembers members) = (get? key members).map reread := by
  induction members with
  | nil => rfl
  | cons member members ih =>
    obtain ⟨k, v⟩ := member
    rw [rereadMembers, get?_cons, get?_cons, ih]
    split <;> rfl

lemma rereadMembers_set (key : String) (v : Json) (members : List (String × Json)) :
    rereadMembers (set key v members) = set key v.reread (rereadMembers members) := by
  induction members with
  | nil => rfl
  | cons member members ih =>
    obtain ⟨k, w⟩ := member
    rw [set, rereadMembers, set]
    split
    · rfl
    · split
      · rfl
      · rw [rereadMembers, ih]

lemma Sorted.reread (h : Sorted members) : Sorted (rereadMembers members) := by
  rw [rereadMembers_eq_map]
  exact List.pairwise_map.2 h

lemma members?_reread (v : Json) :
    v.reread.members?.getD [] = rereadMembers (v.members?.getD []) := by
  cases v <;> rfl

/-! ## Values that are read back -/

lemma ReadsBack.arr (h : ∀ v ∈ items, v.ReadsBack) : (arr items).ReadsBack := by
  rw [ReadsBack, reread_arr, List.map_congr_left h, List.map_id']

lemma readsBack_obj_iff :
    (obj members).ReadsBack ↔ ∀ member ∈ members, member.2.ReadsBack := by
  rw [ReadsBack, reread_obj, obj.injEq]
  constructor
  · intro h member hmember
    have hmap := List.map_id' members
    have heq := List.map_inj_left.1 (h.trans hmap.symm) member hmember
    exact congrArg Prod.snd heq
  · intro h
    conv_rhs => rw [← List.map_id' members]
    exact List.map_congr_left fun member hmember => Prod.ext rfl (h member hmember)

lemma readsBack_str (s : String) : (str s).ReadsBack := rfl

lemma readsBack_ofStrings (texts : List String) : (ofStrings texts).ReadsBack := by
  refine .arr fun v hv => ?_
  obtain ⟨s, -, rfl⟩ := List.mem_map.1 hv
  exact readsBack_str s

/-- A double is read again as a double, and what is no number as `null`. -/
lemma reread_ofFloat (x : Float) :
    (ofFloat x).reread = ofFloat (Number.rereadFloat x) := by
  rw [ofFloat, ofFloat, Number.isFinite_rereadFloat]
  split <;> rfl

/-- Whether a double is read back is a matter of finite doubles only. -/
lemma readsBack_ofFloat_iff {x : Float} :
    (ofFloat x).ReadsBack ↔ Number.rereadFloat x = x := by
  rw [ReadsBack, reread_ofFloat, ofFloat, ofFloat, Number.isFinite_rereadFloat]
  by_cases hx : x.isFinite = true
  · simp [hx]
  · simp [hx, Number.rereadFloat]

/-- The number that a value is. -/
def number? : Json → Option Number
  | .num n => some n
  | _ => none

lemma eq_of_number? {n : Number} (h : v.number? = some n) : v = .num n := by
  cases v with
  | num m => rw [Option.some.inj h]
  | _ => cases h

/-! ## Readers that look at no double -/

/-- What is written and read again is read as before. -/
def Unaware (read : Json → Option α) : Prop :=
  ∀ v : Json, read v.reread = read v

lemma unaware_string? : Unaware string? := by
  intro v
  cases v <;> rfl

lemma unaware_natural? (bound : ℕ) : Unaware (natural? bound) := by
  intro v
  cases v with
  | num n => cases n <;> rfl
  | _ => rfl

lemma mapM_reread {read : Json → Option α} (h : Unaware read) (items : List Json) :
    (items.map reread).mapM read = items.mapM read := by
  rw [List.mapM_map]
  exact congrArg (items.mapM ·) (funext h)

lemma Unaware.list? {read : Json → Option α} (h : Unaware read) : Unaware (list? read) := by
  intro v
  cases v with
  | arr items =>
    rw [reread_arr]
    exact mapM_reread h items
  | _ => rfl

lemma Unaware.table? {read : Json → Option α} (h : Unaware read) : Unaware (table? read) := by
  intro v
  cases v with
  | obj members =>
    have hentries : (fun member : String × Json => (read member.2.reread).map (member.1, ·)) =
        fun member => (read member.2).map (member.1, ·) := by
      funext member
      rw [h]
    rw [reread_obj]
    simp only [Json.table?, List.mapM_map]
    exact congrArg (fun read => (members.mapM read).bind fun entries => some (Table.ofList entries))
      hentries
  | _ => rfl

lemma lookup_map_snd (f : Json → Json) (name : String) (fields : List (String × Json)) :
    (fields.map fun field => (field.1, f field.2)).lookup name = (fields.lookup name).map f := by
  induction fields with
  | nil => rfl
  | cons field fields ih =>
    rw [List.map_cons, List.lookup_cons, List.lookup_cons, ih]
    split <;> rfl

/-- Each field of a record is read again. -/
lemma record?_reread (names : List String) (v : Json) :
    record? names v.reread = (record? names v).map fun fields name => (fields name).map reread := by
  cases v with
  | arr items =>
    rw [reread_arr, record?, record?, List.length_map]
    split
    · rw [Option.map_some, Option.some_inj]
      funext name
      rw [← lookup_map_snd reread, List.zip_map_right]
      rfl
    · rfl
  | obj members =>
    have honce : eachOnce names (members.map fun member => (member.1, member.2.reread)) =
        eachOnce names members := by
      simp [eachOnce, List.filter_map, Function.comp_def]
    rw [reread_obj, record?, record?, honce]
    split
    · rw [Option.map_some, Option.some_inj]
      funext name
      exact lookup_map_snd reread name members
    · rfl
  | _ => rfl

variable {fields : Fields}

lemma Unaware.required {read : Json → Option α} (h : Unaware read) (name : String) :
    Fields.required (fun name => (fields name).map reread) name read =
      fields.required name read := by
  rw [Fields.required, Fields.required, Option.bind_map]
  exact congrArg ((fields name).bind ·) (funext h)

lemma Unaware.withDefault {read : Json → Option α} (h : Unaware read) (name : String)
    (default : α) :
    Fields.withDefault (fun name => (fields name).map reread) name default read =
      fields.withDefault name default read := by
  cases hfield : fields name with
  | none => simp only [Fields.withDefault, hfield, Option.map_none]
  | some v => simp only [Fields.withDefault, hfield, Option.map_some, h v]

end Atelier.Json

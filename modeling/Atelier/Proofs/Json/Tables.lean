/-
Tables in JSON values.

A table is read from an object if every member of the object can be read.  Of several members with
one key the last counts, so that what the table has for a name is what that member reads as
(`get?_of_table?`).
-/
import Mathlib.Tactic.Common
import Atelier.Proofs.Json.Members
import Atelier.Proofs.Table

namespace Atelier.Json

variable {α : Type} {read : Json → Option α} {members : List (String × Json)} {v : Json}

/-- An entry of a table with its name. -/
def named? (read : Json → Option α) (member : String × Json) : Option (String × α) :=
  (read member.2).map (member.1, ·)

lemma table?_obj (read : Json → Option α) (members : List (String × Json)) :
    table? read (.obj members) = (members.mapM (named? read)).map .ofList := by
  show (members.mapM (named? read)).bind (fun entries => some (Table.ofList entries)) = _
  cases members.mapM (named? read) <;> rfl

/-! ## Which tables are read -/

/-- A table: an object in which every member can be read. -/
def IsTable (read : Json → Option α) (v : Json) : Prop :=
  ∃ members, v = .obj members ∧ ∀ member ∈ members, ∃ a, read member.2 = some a

lemma isSome_mapM_named? (h : ∀ member ∈ members, (read member.2).isSome = true) :
    (members.mapM (named? read)).isSome = true := by
  induction members with
  | nil => rfl
  | cons member rest ih =>
    obtain ⟨a, ha⟩ := Option.isSome_iff_exists.1 (h member List.mem_cons_self)
    obtain ⟨later, hlater⟩ := Option.isSome_iff_exists.1
      (ih fun m hm => h m (List.mem_cons_of_mem _ hm))
    rw [List.mapM_cons, hlater, named?, ha]
    rfl

/-- One entry that cannot be read is enough for the table not to be read. -/
lemma table?_eq_none {member : String × Json} (hmember : member ∈ members)
    (h : read member.2 = none) : table? read (.obj members) = none := by
  have hentries : members.mapM (named? read) = none := by
    induction members with
    | nil => cases hmember
    | cons first rest ih =>
      rw [List.mapM_cons]
      rcases List.mem_cons.1 hmember with rfl | hlater
      · rw [named?, h]
        rfl
      · rw [ih hlater]
        cases named? read first <;> rfl
  rw [table?_obj, hentries, Option.map_none]

lemma exists_table?_iff : (∃ t, table? read v = some t) ↔ v.IsTable read := by
  constructor
  · rintro ⟨t, h⟩
    cases v with
    | obj members =>
      refine ⟨members, rfl, fun member hmember => ?_⟩
      cases hread : read member.2 with
      | none => rw [table?_eq_none hmember hread] at h; cases h
      | some a => exact ⟨a, rfl⟩
    | _ => cases h
  · rintro ⟨members, rfl, hread⟩
    have hentries := isSome_mapM_named? fun member hmember =>
      Option.isSome_iff_exists.2 (hread member hmember)
    obtain ⟨entries, hentries⟩ := Option.isSome_iff_exists.1 hentries
    exact ⟨.ofList entries, by rw [table?_obj, hentries, Option.map_some]⟩

/-! ## What is read -/

/-- The entries are the members, each with what its value reads as. -/
lemma map_some_of_mapM_named? {entries : List (String × α)}
    (h : members.mapM (named? read) = some entries) :
    (entries.map fun entry => (entry.1, some entry.2)) =
      members.map fun member => (member.1, read member.2) := by
  induction members generalizing entries with
  | nil =>
    obtain rfl : [] = entries := by simpa using h
    rfl
  | cons member rest ih =>
    rw [List.mapM_cons] at h
    obtain ⟨entry, hentry, hrest⟩ := Option.bind_eq_some_iff.1 h
    obtain ⟨a, ha, rfl⟩ := Option.map_eq_some_iff.1 hentry
    obtain ⟨later, hlater, hentries⟩ := Option.bind_eq_some_iff.1 hrest
    obtain rfl := Option.some.inj hentries
    rw [List.map_cons, List.map_cons, ih hlater, ha]

/-- The entries of a table are the members that count, each with what its value reads as. -/
lemma map_some_entries_of_table? {t : Table α} (h : table? read (.obj members) = some t) :
    (t.entries.map fun entry => (entry.1, some entry.2)) =
      (Table.ofList members).entries.map fun member => (member.1, read member.2) := by
  rw [table?_obj] at h
  obtain ⟨entries, hentries, rfl⟩ := Option.map_eq_some_iff.1 h
  rw [← Table.entries_ofList_map_value, map_some_of_mapM_named? hentries,
    Table.entries_ofList_map_value]

lemma names_of_table? {t : Table α} (h : table? read (.obj members) = some t) :
    t.names = (Table.ofList members).names := by
  have hnames := congrArg (List.map Prod.fst) (map_some_entries_of_table? h)
  rw [List.map_map, List.map_map] at hnames
  exact hnames

/-- A table has for a name what the last member of that name reads as. -/
lemma get?_of_table? {t : Table α} (h : table? read (.obj members) = some t) (name : String) :
    t.get? name = ((Table.ofList members).get? name).bind read := by
  have hlookup := congrArg (List.lookup name) (map_some_entries_of_table? h)
  rw [Table.lookup_map_value, Table.lookup_map_value] at hlookup
  rw [Table.get?, Table.get?]
  cases ht : t.entries.lookup name with
  | none =>
    rw [ht] at hlookup
    cases hmember : (Table.ofList members).entries.lookup name with
    | none => rfl
    | some w =>
      rw [hmember] at hlookup
      cases hlookup
  | some a =>
    rw [ht] at hlookup
    obtain ⟨w, hw, hread⟩ := Option.map_eq_some_iff.1 hlookup.symm
    rw [hw, Option.bind_some, hread]

lemma Sorted.nodup (h : Sorted members) : (members.map Prod.fst).Nodup :=
  List.pairwise_map.2 (h.imp fun hlt => hlt.ne)

/-- A table whose entries can all be read has under each name what is stored there. -/
lemma get?_table? (hsorted : Sorted members)
    (h : ∀ member ∈ members, (read member.2).isSome = true) :
    ∃ t, table? read (.obj members) = some t ∧
      ∀ name, t.get? name = (get? name members).bind read := by
  obtain ⟨t, ht⟩ := exists_table?_iff.2
    ⟨members, rfl, fun member hmember => Option.isSome_iff_exists.1 (h member hmember)⟩
  refine ⟨t, ht, fun name => ?_⟩
  rw [get?_of_table? ht, Table.get?, Table.entries_ofList hsorted.nodup, get?]

end Atelier.Json

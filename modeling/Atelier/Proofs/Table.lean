/-
Tables of distinct names.

A list in which no name occurs twice is the list of entries of its table, and each of its
entries is what the table has for the name.
-/
import Mathlib.Data.List.Nodup
import Mathlib.Tactic.Common
import Atelier.Table

namespace Atelier.Table

variable {α : Type} {name : String} {v : α} {entries : List (String × α)}

lemma put_eq_append (h : name ∉ entries.map Prod.fst) :
    put name v entries = entries ++ [(name, v)] := by
  induction entries with
  | nil => rfl
  | cons entry entries ih =>
    obtain ⟨k, w⟩ := entry
    rw [List.map_cons, List.mem_cons, not_or] at h
    rw [put, if_neg fun hk => h.1 hk.symm, ih h.2, List.cons_append]

/-- Entries with new names stand behind those of the table. -/
lemma entries_foldl_insert (t : Table α)
    (h : ((t.entries ++ entries).map Prod.fst).Nodup) :
    (entries.foldl (fun t (name, v) => t.insert name v) t).entries = t.entries ++ entries := by
  induction entries generalizing t with
  | nil => simp
  | cons entry entries ih =>
    obtain ⟨name, v⟩ := entry
    have hnew : name ∉ t.entries.map Prod.fst := by
      intro hname
      rw [List.map_append] at h
      exact (List.disjoint_of_nodup_append h) hname (by simp)
    have hinsert : (t.insert name v).entries = t.entries ++ [(name, v)] := put_eq_append hnew
    have hrest := ih (t.insert name v) (by rw [hinsert]; simpa using h)
    rw [List.foldl_cons, hrest, hinsert, List.append_assoc, List.singleton_append]

lemma entries_ofList (h : (entries.map Prod.fst).Nodup) : (ofList entries).entries = entries :=
  entries_foldl_insert empty h

@[simp] lemma ofList_entries (t : Table α) : ofList t.entries = t :=
  ext (entries_ofList t.distinct)

/-- What is found under a name stands there. -/
lemma mem_of_lookup (h : entries.lookup name = some v) : (name, v) ∈ entries := by
  obtain ⟨before, after, rfl, -⟩ := List.lookup_eq_some_iff.1 h
  simp

/-- A table has for a name what the entry of the name says. -/
lemma get?_of_mem (t : Table α) (h : (name, v) ∈ t.entries) : t.get? name = some v := by
  obtain ⟨before, after, hentries⟩ := List.append_of_mem h
  have hdistinct := t.distinct
  rw [hentries, List.map_append, List.map_cons] at hdistinct
  rw [get?, List.lookup_eq_some_iff]
  refine ⟨before, after, hentries, fun entry hentry => ?_⟩
  have hname : entry.1 ∈ before.map Prod.fst := List.mem_map_of_mem hentry
  -- An earlier entry of the same name would repeat it.
  have hne : entry.1 ≠ name := by
    rintro rfl
    exact (List.disjoint_of_nodup_append hdistinct) hname (by simp)
  simpa using hne.symm

/-- Entries of which each has a name of its own may stand in any order. -/
lemma lookup_perm {entries' : List (String × α)} (hdistinct : (entries.map Prod.fst).Nodup)
    (h : entries.Perm entries') (name : String) : entries'.lookup name = entries.lookup name := by
  have hdistinct' : (entries'.map Prod.fst).Nodup := (h.map Prod.fst).nodup_iff.1 hdistinct
  cases hv : entries.lookup name with
  | some v => exact get?_of_mem ⟨entries', hdistinct'⟩ (h.mem_iff.1 (mem_of_lookup hv))
  | none =>
    cases hv' : entries'.lookup name with
    | none => rfl
    | some v =>
      have hfound : entries.lookup name = some v :=
        get?_of_mem ⟨entries, hdistinct⟩ (h.mem_iff.2 (mem_of_lookup hv'))
      rw [hv] at hfound
      cases hfound

/-! ## Tables of altered values -/

section

variable {β : Type} (f : α → β)

lemma lookup_map_value : (entries.map fun entry => (entry.1, f entry.2)).lookup name =
    (entries.lookup name).map f := by
  induction entries with
  | nil => rfl
  | cons entry entries ih =>
    obtain ⟨k, v⟩ := entry
    rw [List.map_cons, List.lookup_cons, List.lookup_cons, ih]
    cases name == k <;> rfl

lemma put_map_value : put name (f v) (entries.map fun entry => (entry.1, f entry.2)) =
    (put name v entries).map fun entry => (entry.1, f entry.2) := by
  induction entries with
  | nil => rfl
  | cons entry entries ih =>
    obtain ⟨k, w⟩ := entry
    rw [List.map_cons, put, put, ih]
    split <;> rfl

/-- Which of the values of a name counts does not depend on what the values are. -/
lemma entries_ofList_map_value (entries : List (String × α)) :
    (ofList (entries.map fun entry => (entry.1, f entry.2))).entries =
      (ofList entries).entries.map fun entry => (entry.1, f entry.2) := by
  have hfold (s : Table β) (t : Table α)
      (h : s.entries = t.entries.map fun entry => (entry.1, f entry.2)) :
      ((entries.map fun entry => (entry.1, f entry.2)).foldl
        (fun s (name, v) => s.insert name v) s).entries =
        (entries.foldl (fun t (name, v) => t.insert name v) t).entries.map
          fun entry => (entry.1, f entry.2) := by
    induction entries generalizing s t with
    | nil => exact h
    | cons entry entries ih =>
      refine ih _ _ ?_
      show put entry.1 (f entry.2) s.entries = _
      rw [h, put_map_value]
      rfl
  exact hfold empty empty rfl

/-- The table with its values altered. -/
def map (t : Table α) : Table β where
  entries := t.entries.map fun entry => (entry.1, f entry.2)
  distinct := by
    rw [List.map_map]
    exact t.distinct

lemma ofList_map_value (entries : List (String × α)) :
    ofList (entries.map fun entry => (entry.1, f entry.2)) = (ofList entries).map f :=
  ext (entries_ofList_map_value f entries)

end

/-! ## The table of a list -/

lemma eq_or_mem_of_mem_put {entry : String × α} (h : entry ∈ put name v entries) :
    entry = (name, v) ∨ entry ∈ entries := by
  induction entries with
  | nil => exact .inl (List.mem_singleton.1 h)
  | cons first rest ih =>
    obtain ⟨k, w⟩ := first
    rw [put] at h
    split at h
    · rename_i hk
      subst hk
      rcases List.mem_cons.1 h with rfl | h
      · exact .inl rfl
      · exact .inr (by simp [h])
    · rcases List.mem_cons.1 h with rfl | h
      · exact .inr (by simp)
      · rcases ih h with rfl | h
        · exact .inl rfl
        · exact .inr (by simp [h])

lemma mem_or_mem_of_mem_foldl_insert (t : Table α) {entry : String × α}
    (h : entry ∈ (entries.foldl (fun t (name, v) => t.insert name v) t).entries) :
    entry ∈ t.entries ∨ entry ∈ entries := by
  induction entries generalizing t with
  | nil => exact .inl h
  | cons first rest ih =>
    rcases ih _ h with h | h
    · rcases eq_or_mem_of_mem_put h with rfl | h
      · exact .inr (by simp)
      · exact .inl h
    · exact .inr (by simp [h])

/-- A table has no entries but those of the list. -/
lemma mem_of_mem_ofList {entry : String × α} (h : entry ∈ (ofList entries).entries) :
    entry ∈ entries := by
  rcases mem_or_mem_of_mem_foldl_insert empty h with h | h
  · cases h
  · exact h

section

variable {β : Type} (key : β → String) (value : β → α) {items : List β}

lemma entries_ofList_map (h : (items.map key).Nodup) :
    (ofList (items.map fun b => (key b, value b))).entries =
      items.map fun b => (key b, value b) := by
  refine entries_ofList ?_
  rw [List.map_map]
  exact h

/-- Lists in which no name occurs twice are the same if their tables are. -/
lemma ofList_map_inj {items' : List β} (h : (items.map key).Nodup)
    (h' : (items'.map key).Nodup) :
    ofList (items.map fun b => (key b, value b)) = ofList (items'.map fun b => (key b, value b)) ↔
      (items.map fun b => (key b, value b)) = items'.map fun b => (key b, value b) := by
  constructor
  · intro heq
    rw [← entries_ofList_map key value h, ← entries_ofList_map key value h', heq]
  · intro heq
    rw [heq]

lemma names_ofList_map (h : (items.map key).Nodup) :
    (ofList (items.map fun b => (key b, value b))).names = items.map key := by
  rw [names, entries_ofList_map key value h, List.map_map]
  rfl

lemma get?_ofList_map (h : (items.map key).Nodup) {b : β} (hb : b ∈ items) :
    (ofList (items.map fun b => (key b, value b))).get? (key b) = some (value b) := by
  refine get?_of_mem _ ?_
  rw [entries_ofList_map key value h]
  exact List.mem_map_of_mem hb

end

end Atelier.Table

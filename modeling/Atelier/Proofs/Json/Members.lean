/-
Members in the order of their keys.

Setting a key changes what is found under it and under no other key, and it keeps the members
in order (`get?_set`, `Sorted.set`).  In members that are in order each key stands once, and
sorting them changes nothing.  They are known by what is found under each key (`Sorted.ext`), so
that two of them are equal if no look-up tells them apart.
-/
import Mathlib.Data.String.Basic
import Mathlib.Tactic.Common
import Atelier.Json.Decode

namespace Atelier.Json

/-- The keys stand in order, each once. -/
def Sorted (members : List (String × Json)) : Prop :=
  members.Pairwise fun m n => m.1 < n.1

variable {key : String} {v : Json} {members : List (String × Json)}

lemma sorted_nil : Sorted [] :=
  List.Pairwise.nil

lemma sorted_cons_iff {member : String × Json} :
    Sorted (member :: members) ↔ (∀ m ∈ members, member.1 < m.1) ∧ Sorted members :=
  List.pairwise_cons

/-! ## Looking a key up -/

@[simp] lemma get?_nil (key : String) : get? key [] = none := rfl

lemma get?_cons (key k : String) (w : Json) (rest : List (String × Json)) :
    get? key ((k, w) :: rest) = if key = k then some w else get? key rest := by
  by_cases h : key = k
  · simp [get?, h]
  · have hne : (key == k) = false := by simpa using h
    simp [get?, List.lookup_cons, hne, h]

lemma mem_of_get? (h : get? key members = some v) : (key, v) ∈ members := by
  induction members with
  | nil => cases h
  | cons member rest ih =>
    obtain ⟨k, w⟩ := member
    rw [get?_cons] at h
    split at h
    · rename_i hk
      obtain rfl := hk
      obtain rfl := Option.some.inj h
      exact List.mem_cons_self
    · exact List.mem_cons_of_mem _ (ih h)

lemma Sorted.get?_of_mem (h : Sorted members) (hmem : (key, v) ∈ members) :
    get? key members = some v := by
  induction members with
  | nil => cases hmem
  | cons member rest ih =>
    obtain ⟨k, w⟩ := member
    obtain ⟨hlt, hrest⟩ := sorted_cons_iff.1 h
    rw [get?_cons]
    rcases List.mem_cons.1 hmem with hfirst | hlater
    · obtain ⟨rfl, rfl⟩ := Prod.mk.inj hfirst
      rw [if_pos rfl]
    · rw [if_neg (hlt _ hlater).ne', ih hrest hlater]

/-! ## Setting a key -/

/-- Setting a key changes what is found under it, and nothing else. -/
lemma get?_set (key other : String) (v : Json) (members : List (String × Json)) :
    get? other (set key v members) = if other = key then some v else get? other members := by
  induction members with
  | nil => rw [set, get?_cons]
  | cons member rest ih =>
    obtain ⟨k, w⟩ := member
    rw [set]
    split
    · rw [get?_cons]
    · split
      · rename_i hk
        subst hk
        rw [get?_cons, get?_cons]
        split <;> rfl
      · rename_i hk
        rw [get?_cons, get?_cons, ih]
        by_cases hother : other = k
        · rw [if_pos hother, if_pos hother, if_neg fun h => hk (h.symm.trans hother)]
        · rw [if_neg hother, if_neg hother]

lemma eq_or_mem_of_mem_set {m : String × Json} (h : m ∈ set key v members) :
    m = (key, v) ∨ m ∈ members := by
  induction members with
  | nil => exact .inl (List.mem_singleton.1 h)
  | cons member rest ih =>
    obtain ⟨k, w⟩ := member
    rw [set] at h
    split at h
    · exact List.mem_cons.1 h
    · split at h
      · rcases List.mem_cons.1 h with rfl | hrest
        · exact .inl rfl
        · exact .inr (List.mem_cons_of_mem _ hrest)
      · rcases List.mem_cons.1 h with rfl | hrest
        · exact .inr List.mem_cons_self
        · exact (ih hrest).imp id (List.mem_cons_of_mem _)

lemma Sorted.set (h : Sorted members) (key : String) (v : Json) :
    Sorted (set key v members) := by
  induction members with
  | nil => exact List.pairwise_singleton _ _
  | cons member rest ih =>
    obtain ⟨k, w⟩ := member
    obtain ⟨hlt, hrest⟩ := sorted_cons_iff.1 h
    rw [Json.set]
    split
    · rename_i hkey
      refine sorted_cons_iff.2 ⟨fun m hm => ?_, h⟩
      rcases List.mem_cons.1 hm with rfl | hm
      · exact hkey
      · exact hkey.trans (hlt m hm)
    · split
      · rename_i hk
        subst hk
        exact sorted_cons_iff.2 ⟨hlt, hrest⟩
      · rename_i hnlt hne
        have hk : k < key := lt_of_le_of_ne (not_lt.1 hnlt) (Ne.symm hne)
        refine sorted_cons_iff.2 ⟨fun m hm => ?_, ih hrest⟩
        rcases eq_or_mem_of_mem_set hm with rfl | hm
        · exact hk
        · exact hlt m hm

/-- Members in order are known by what is found under each key. -/
lemma Sorted.ext {members' : List (String × Json)} (h : Sorted members) (h' : Sorted members')
    (hfound : ∀ key, get? key members = get? key members') : members = members' := by
  have hmem : ∀ m, m ∈ members ↔ m ∈ members' := by
    rintro ⟨k, w⟩
    constructor
    · intro hm
      exact mem_of_get? ((hfound k).symm.trans (h.get?_of_mem hm))
    · intro hm
      exact mem_of_get? ((hfound k).trans (h'.get?_of_mem hm))
  have hperm : members.Perm members' :=
    (List.perm_ext_iff_of_nodup (h.imp fun hlt heq => hlt.ne (congrArg Prod.fst heq))
      (h'.imp fun hlt heq => hlt.ne (congrArg Prod.fst heq))).2 hmem
  exact hperm.eq_of_pairwise (fun m n _ _ hmn hnm => absurd hnm hmn.not_gt) h h'

/-- Of two values for one key the second counts. -/
lemma Sorted.set_set (h : Sorted members) (key : String) (v w : Json) :
    Json.set key v (Json.set key w members) = Json.set key v members := by
  refine ((h.set key w).set key v).ext (h.set key v) fun other => ?_
  simp only [get?_set]
  split <;> rfl

/-- Values for different keys can be set in either order. -/
lemma Sorted.set_comm (h : Sorted members) {key key' : String} (hne : key ≠ key') (v w : Json) :
    Json.set key v (Json.set key' w members) = Json.set key' w (Json.set key v members) := by
  refine ((h.set key' w).set key v).ext ((h.set key v).set key' w) fun other => ?_
  simp only [get?_set]
  by_cases hkey : other = key
  · simp [hkey, hne]
  · simp [hkey]

lemma set_eq_append (h : ∀ m ∈ members, m.1 < key) :
    set key v members = members ++ [(key, v)] := by
  induction members with
  | nil => rfl
  | cons member rest ih =>
    obtain ⟨k, w⟩ := member
    have hk : k < key := h (k, w) List.mem_cons_self
    rw [set, if_neg hk.not_gt, if_neg hk.ne', ih fun m hm => h m (List.mem_cons_of_mem _ hm),
      List.cons_append]

/-! ## Sorting -/

/-- Members that are set one after the other, on top of others. -/
def setAll (done members : List (String × Json)) : List (String × Json) :=
  members.foldl (fun done member => set member.1 member.2 done) done

lemma sortMembers_eq_setAll (members : List (String × Json)) :
    sortMembers members = setAll [] members := rfl

lemma setAll_cons (done : List (String × Json)) (member : String × Json) :
    setAll done (member :: members) = setAll (set member.1 member.2 done) members := rfl

lemma Sorted.setAll {done : List (String × Json)} (h : Sorted done) :
    Sorted (setAll done members) := by
  induction members generalizing done with
  | nil => exact h
  | cons member rest ih => exact ih (h.set _ _)

lemma sorted_sortMembers (members : List (String × Json)) : Sorted (sortMembers members) :=
  sorted_nil.setAll

lemma mem_or_mem_of_mem_setAll {done : List (String × Json)} {m : String × Json}
    (h : m ∈ setAll done members) : m ∈ done ∨ m ∈ members := by
  induction members generalizing done with
  | nil => exact .inl h
  | cons member rest ih =>
    rcases ih h with hdone | hrest
    · rcases eq_or_mem_of_mem_set hdone with rfl | hdone
      · exact .inr List.mem_cons_self
      · exact .inl hdone
    · exact .inr (List.mem_cons_of_mem _ hrest)

lemma mem_of_mem_sortMembers {m : String × Json} (h : m ∈ sortMembers members) : m ∈ members :=
  (mem_or_mem_of_mem_setAll h).resolve_left List.not_mem_nil

lemma setAll_eq_append {done : List (String × Json)} (h : Sorted (done ++ members)) :
    setAll done members = done ++ members := by
  induction members generalizing done with
  | nil => exact (List.append_nil done).symm
  | cons member rest ih =>
    have hlast : set member.1 member.2 done = done ++ [member] :=
      set_eq_append fun m hm => (List.pairwise_append.1 h).2.2 m hm member List.mem_cons_self
    rw [setAll_cons, hlast, ih (by simpa using h), List.append_assoc, List.singleton_append]

/-- Members in order stay as they are. -/
lemma Sorted.sortMembers_eq (h : Sorted members) : sortMembers members = members :=
  setAll_eq_append h

lemma get?_setAll {done : List (String × Json)} (hnodup : (members.map Prod.fst).Nodup)
    (hdone : ∀ m ∈ members, get? m.1 done = none) (key : String) :
    get? key (setAll done members) = (get? key done).or (get? key members) := by
  induction members generalizing done with
  | nil => exact Option.or_none.symm
  | cons member rest ih =>
    obtain ⟨k, w⟩ := member
    obtain ⟨hnew, hrest⟩ := List.nodup_cons.1 hnodup
    have hfree : ∀ m ∈ rest, get? m.1 (set k w done) = none := by
      intro m hm
      have hne : m.1 ≠ k := by
        rintro rfl
        exact hnew (List.mem_map.2 ⟨m, hm, rfl⟩)
      rw [get?_set, if_neg hne, hdone m (List.mem_cons_of_mem _ hm)]
    rw [setAll_cons, ih hrest hfree, get?_set, get?_cons]
    by_cases hkey : key = k
    · subst hkey
      simp [hdone (key, w) List.mem_cons_self]
    · simp [hkey]

/-- What is found in members that have each key once does not depend on their order. -/
lemma get?_sortMembers (h : (members.map Prod.fst).Nodup) (key : String) :
    get? key (sortMembers members) = get? key members := by
  rw [sortMembers_eq_setAll, get?_setAll h (fun _ _ => rfl), get?_nil, Option.none_or]

/-! ## Records in order -/

/-- In members that are in order no name is the key of two. -/
lemma Sorted.eachOnce (h : Sorted members) (names : List String) :
    eachOnce names members = true := by
  refine List.all_eq_true.2 fun name _ => decide_eq_true ?_
  have hfilter : Sorted (members.filter (·.1 = name)) := List.Pairwise.filter _ h
  match hfound : members.filter (·.1 = name) with
  | [] | [_] => simp [hfound]
  | m :: n :: rest =>
    rw [hfound] at hfilter
    have hm : m ∈ members.filter (·.1 = name) := by simp [hfound]
    have hn : n ∈ members.filter (·.1 = name) := by simp [hfound]
    have hlt : m.1 < n.1 := (sorted_cons_iff.1 hfilter).1 n List.mem_cons_self
    rw [List.mem_filter, decide_eq_true_eq] at hm hn
    rw [hm.2, hn.2] at hlt
    exact absurd hlt (lt_irrefl name)

end Atelier.Json

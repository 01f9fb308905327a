/-
Tables: values by name, each name once, in the order in which the names were first given.
-/

namespace Atelier

/-- Values by name.  The entries stand in the order in which their names were first given. -/
structure Table (α : Type) where
  entries : List (String × α)
  /-- No name occurs twice. -/
  distinct : (entries.map Prod.fst).Nodup

namespace Table

variable {α β : Type}

/-- The table without entries. -/
def empty : Table α :=
  ⟨[], by simp⟩

instance : Inhabited (Table α) := ⟨empty⟩
instance : EmptyCollection (Table α) := ⟨empty⟩

instance [BEq α] : BEq (Table α) where
  beq s t := s.entries == t.entries

@[ext]
theorem ext {s t : Table α} (h : s.entries = t.entries) : s = t := by
  cases s; cases t; simp_all

/-- The names, in order. -/
def names (t : Table α) : List String :=
  t.entries.map Prod.fst

/-- The value of a name. -/
def get? (t : Table α) (name : String) : Option α :=
  t.entries.lookup name

/-- Whether a name has a value. -/
def contains (t : Table α) (name : String) : Bool :=
  name ∈ t.names

/-- Entries with one name set: in its place if it is there already, otherwise at the end. -/
def put (name : String) (v : α) : List (String × α) → List (String × α)
  | [] => [(name, v)]
  | (k, w) :: rest => if k = name then (k, v) :: rest else (k, w) :: put name v rest

theorem map_fst_put (name : String) (v : α) (entries : List (String × α)) :
    (put name v entries).map Prod.fst =
      if name ∈ entries.map Prod.fst then entries.map Prod.fst
      else entries.map Prod.fst ++ [name] := by
  induction entries with
  | nil => simp [put]
  | cons e rest ih =>
    obtain ⟨k, w⟩ := e
    by_cases h : k = name
    · simp [put, h]
    · have h' : ¬ name = k := fun e => h e.symm
      simp only [put, h, if_false, List.map_cons, ih, List.mem_cons, h', false_or]
      split <;> simp

/-- The table with one name set. -/
def insert (t : Table α) (name : String) (v : α) : Table α where
  entries := put name v t.entries
  distinct := by
    rw [map_fst_put]
    split
    · exact t.distinct
    · rename_i h
      exact List.nodup_append.2 ⟨t.distinct, by simp, by
        intro a ha b hb e
        simp only [List.mem_singleton] at hb
        exact h (hb ▸ e ▸ ha)⟩

/-- The table of a list of names with values.  A repeated name keeps its first place and takes
its last value. -/
def ofList (entries : List (String × α)) : Table α :=
  entries.foldl (fun t (name, v) => t.insert name v) empty

end Table

end Atelier

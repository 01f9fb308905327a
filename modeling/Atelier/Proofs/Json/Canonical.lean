/-
Canonical values, and texts that are kept as values.

The canonical form of a value is canonical, and a canonical value is its own canonical form.
So a text that has been read as a canonical value and is written again denotes that value, with
its doubles read again (`canonical_of_parseCanonical`, `parseCanonical_pretty`).
-/
import Mathlib.Tactic.Common
import Atelier.Proofs.Json.Depth
import Atelier.Proofs.Json.Members

namespace Atelier.Json

/-- A value every part of which can be read, with the members of each object in order. -/
inductive Canonical : Json → Prop where
  | null : Canonical .null
  | bool (b : Bool) : Canonical (.bool b)
  | num (n : Number) : Canonical (.num n)
  | str (s : String) : Canonical (.str s)
  | arr {items : List Json} (items_canonical : ∀ v ∈ items, Canonical v) : Canonical (.arr items)
  | obj {members : List (String × Json)} (sorted : Sorted members)
      (members_canonical : ∀ member ∈ members, Canonical member.2) : Canonical (.obj members)

/-! ## The canonical form -/

lemma exists_of_mem_canonicalItems? {items forms : List Json}
    (h : canonicalItems? items = some forms) :
    ∀ w ∈ forms, ∃ v ∈ items, v.canonical? = some w := by
  induction items generalizing forms with
  | nil =>
    obtain rfl := Option.some.inj h
    simp
  | cons v items ih =>
    rw [canonicalItems?] at h
    obtain ⟨w, hw, hrest⟩ := Option.bind_eq_some_iff.1 h
    obtain ⟨ws, hws, hforms⟩ := Option.bind_eq_some_iff.1 hrest
    obtain rfl := Option.some.inj hforms
    intro u hu
    rcases List.mem_cons.1 hu with rfl | hu
    · exact ⟨v, List.mem_cons_self, hw⟩
    · obtain ⟨t, ht, hform⟩ := ih hws u hu
      exact ⟨t, List.mem_cons_of_mem _ ht, hform⟩

lemma exists_of_mem_canonicalMembers? {members forms : List (String × Json)}
    (h : canonicalMembers? members = some forms) :
    ∀ form ∈ forms, ∃ member ∈ members, member.2.canonical? = some form.2 := by
  induction members generalizing forms with
  | nil =>
    obtain rfl := Option.some.inj h
    simp
  | cons member members ih =>
    obtain ⟨k, v⟩ := member
    rw [canonicalMembers?] at h
    obtain ⟨w, hw, hrest⟩ := Option.bind_eq_some_iff.1 h
    obtain ⟨ws, hws, hforms⟩ := Option.bind_eq_some_iff.1 hrest
    obtain rfl := Option.some.inj hforms
    intro form hform
    rcases List.mem_cons.1 hform with rfl | hform
    · exact ⟨(k, v), List.mem_cons_self, hw⟩
    · obtain ⟨member, hmember, hsome⟩ := ih hws form hform
      exact ⟨member, List.mem_cons_of_mem _ hmember, hsome⟩

/-- Under each key stands the canonical form of what stood there. -/
lemma get?_of_canonicalMembers? {members forms : List (String × Json)}
    (h : canonicalMembers? members = some forms) :
    forms.map Prod.fst = members.map Prod.fst ∧
      ∀ key, get? key forms = (get? key members).bind canonical? := by
  induction members generalizing forms with
  | nil =>
    obtain rfl := Option.some.inj h
    simp
  | cons member members ih =>
    obtain ⟨k, v⟩ := member
    rw [canonicalMembers?] at h
    obtain ⟨w, hw, hrest⟩ := Option.bind_eq_some_iff.1 h
    obtain ⟨ws, hws, hforms⟩ := Option.bind_eq_some_iff.1 hrest
    obtain rfl := Option.some.inj hforms
    obtain ⟨hkeys, hfound⟩ := ih hws
    refine ⟨by rw [List.map_cons, List.map_cons, hkeys], fun key => ?_⟩
    rw [get?_cons, get?_cons]
    split
    · rw [Option.bind_some, hw]
    · exact hfound key

/-- The canonical form of what can be read of a text is canonical and legible. -/
lemma Bounded.canonical {room : Nat} {v w : Json} (h : Bounded room v)
    (hw : v.canonical? = some w) : Canonical w ∧ Legible room w := by
  induction h generalizing w with
  | null =>
    obtain rfl := Option.some.inj hw
    exact ⟨.null, .null⟩
  | bool b =>
    obtain rfl := Option.some.inj hw
    exact ⟨.bool b, .bool b⟩
  | num hn =>
    obtain rfl := Option.some.inj hw
    exact ⟨.num _, .num hn⟩
  | str s =>
    obtain rfl := Option.some.inj hw
    exact ⟨.str s, .str s⟩
  | @arr room items _ ih =>
    obtain ⟨forms, hforms, rfl⟩ := Option.map_eq_some_iff.1 hw
    have hparts : ∀ u ∈ forms, Canonical u ∧ Legible room u := by
      intro u hu
      obtain ⟨t, ht, hform⟩ := exists_of_mem_canonicalItems? hforms u hu
      exact ih t ht hform
    exact ⟨.arr fun u hu => (hparts u hu).1, .arr fun u hu => (hparts u hu).2⟩
  | @obj room members _ ih =>
    obtain ⟨forms, hforms, rfl⟩ := Option.map_eq_some_iff.1 hw
    have hparts : ∀ form ∈ sortMembers forms, Canonical form.2 ∧ Legible room form.2 := by
      intro form hform
      obtain ⟨member, hmember, hsome⟩ :=
        exists_of_mem_canonicalMembers? hforms form (mem_of_mem_sortMembers hform)
      exact ih member hmember hsome
    exact ⟨.obj (sorted_sortMembers forms) fun form hform => (hparts form hform).1,
      .obj fun form hform => (hparts form hform).2⟩
  | unreadable => cases hw

lemma canonicalItems?_eq {items : List Json} (h : ∀ v ∈ items, v.canonical? = some v) :
    canonicalItems? items = some items := by
  induction items with
  | nil => rfl
  | cons v items ih =>
    have hv : v.canonical? = some v := h v List.mem_cons_self
    have hitems := ih fun w hw => h w (List.mem_cons_of_mem _ hw)
    simp [canonicalItems?, hv, hitems]

lemma canonicalMembers?_map {α : Type} {write form : α → Json} {entries : List (String × α)}
    (h : ∀ entry ∈ entries, (write entry.2).canonical? = some (form entry.2)) :
    canonicalMembers? (entries.map fun entry => (entry.1, write entry.2)) =
      some (entries.map fun entry => (entry.1, form entry.2)) := by
  induction entries with
  | nil => rfl
  | cons entry entries ih =>
    have hvalue := h entry List.mem_cons_self
    have hentries := ih fun other hother => h other (List.mem_cons_of_mem _ hother)
    simp [canonicalMembers?, hvalue, hentries]

lemma canonicalMembers?_eq {members : List (String × Json)}
    (h : ∀ member ∈ members, member.2.canonical? = some member.2) :
    canonicalMembers? members = some members := by
  have hforms := @canonicalMembers?_map Json id id members h
  simpa using hforms

/-- A canonical value is its own canonical form. -/
lemma Canonical.canonical?_eq {v : Json} (h : Canonical v) : v.canonical? = some v := by
  induction h with
  | arr _ ih => rw [canonical?, canonicalItems?_eq ih, Option.map_some]
  | obj hsorted _ ih =>
    rw [canonical?, canonicalMembers?_eq ih, Option.map_some, hsorted.sortMembers_eq]
  | _ => rfl

/-- The members of a canonical value are in order; what is no object has none. -/
lemma Canonical.sorted_members? {v : Json} (h : Canonical v) : Sorted (v.members?.getD []) := by
  cases h with
  | obj hsorted => exact hsorted
  | _ => exact sorted_nil

/-- What is read again is canonical too. -/
lemma Canonical.reread {v : Json} (h : Canonical v) : Canonical v.reread := by
  induction h with
  | null => exact .null
  | bool b => exact .bool b
  | num n => exact .num n.reread
  | str s => exact .str s
  | arr _ ih =>
    rw [reread_arr]
    refine .arr fun w hw => ?_
    obtain ⟨v, hv, rfl⟩ := List.mem_map.1 hw
    exact ih v hv
  | obj hsorted _ ih =>
    refine .obj hsorted.reread fun member hmember => ?_
    rw [rereadMembers_eq_map] at hmember
    obtain ⟨member', hmember', rfl⟩ := List.mem_map.1 hmember
    exact ih member' hmember'

/-! ## Texts -/

theorem canonical_of_parseCanonical {text : String} {v : Json}
    (h : parseCanonical text = some v) : Canonical v ∧ Legible depthLimit v := by
  obtain ⟨w, hw, hv⟩ := Option.bind_eq_some_iff.1 h
  exact (bounded_of_parse hw).canonical hv

theorem parseCanonical_pretty {v : Json} (h : Canonical v) (hlegible : Legible depthLimit v) :
    parseCanonical v.pretty = some v.reread := by
  rw [parseCanonical, parse_pretty hlegible, Option.bind_some, h.reread.canonical?_eq]

/-- A canonical value is read from its text as it is exactly if it is not nested too deeply and its
doubles are read back. -/
theorem parseCanonical_pretty_iff {v : Json} (h : Canonical v) :
    parseCanonical v.pretty = some v ↔ Legible depthLimit v ∧ v.ReadsBack := by
  constructor
  · intro hparsed
    have hdepth := (canonical_of_parseCanonical hparsed).2
    rw [parseCanonical_pretty h hdepth, Option.some_inj] at hparsed
    exact ⟨hdepth, hparsed⟩
  · rintro ⟨hdepth, hback⟩
    rw [parseCanonical_pretty h hdepth, hback]

/-! ## Objects that are kept -/

/-- Members of an object that is kept as text: they are in order, and each value is canonical
and has room for `room` containers. -/
structure Kept (room : Nat) (members : List (String × Json)) : Prop where
  sorted : Sorted members
  canonical : ∀ member ∈ members, Canonical member.2
  legible : ∀ member ∈ members, Legible room member.2

namespace Kept

variable {room : Nat} {members : List (String × Json)}

lemma nil : Kept room [] :=
  ⟨sorted_nil, by simp, by simp⟩

lemma set (h : Kept room members) {v : Json} (hv : Canonical v) (hlegible : Legible room v)
    (key : String) : Kept room (Json.set key v members) := by
  refine ⟨h.sorted.set key v, fun member hmember => ?_, fun member hmember => ?_⟩
  · rcases eq_or_mem_of_mem_set hmember with rfl | hmember
    · exact hv
    · exact h.canonical member hmember
  · rcases eq_or_mem_of_mem_set hmember with rfl | hmember
    · exact hlegible
    · exact h.legible member hmember

lemma of_obj (h : Canonical (.obj members)) (hlegible : Legible (room + 1) (.obj members)) :
    Kept room members := by
  cases h with
  | obj hsorted hcanonical =>
    cases hlegible with
    | obj hmembers => exact ⟨hsorted, hcanonical, hmembers⟩

lemma reread (h : Kept room members) : Kept room (rereadMembers members) := by
  have hmap := rereadMembers_eq_map members
  refine ⟨h.sorted.reread, fun member hmember => ?_, fun member hmember => ?_⟩ <;>
    rw [hmap] at hmember <;> obtain ⟨member', hmember', rfl⟩ := List.mem_map.1 hmember
  · exact (h.canonical member' hmember').reread
  · exact (h.legible member' hmember').reread

lemma canonical_obj (h : Kept room members) : Canonical (.obj members) :=
  .obj h.sorted h.canonical

lemma legible_obj (h : Kept room members) : Legible (room + 1) (.obj members) :=
  .obj h.legible

end Kept

end Atelier.Json

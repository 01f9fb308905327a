/-
Different values have different texts.

Values with one text are read as one value, and so they agree but for their doubles.  Those are
written differently (`Number.text_inj`), and where they stand in the text is known from what is
read.  The induction is on the first value: its text, and what follows that, determine the value
and what follows (`Determined`).
-/
import Mathlib.Tactic.Common
import Atelier.Proofs.Json.Reading

namespace Atelier.Json

variable {room depth : ℕ} {rest rest' : List Char}

/-- Wherever the value is printed, another value that is read as the same one is either itself or
printed differently. -/
def Determined (depth : ℕ) (v : Json) : Prop :=
  ∀ {room : ℕ} {w : Json} {rest rest' : List Char}, Legible room w → v.reread = w.reread →
    Breaks rest → Breaks rest' → prettyText depth v ++ rest = prettyText depth w ++ rest' →
      v = w ∧ rest = rest'

/-! ## Numbers -/

lemma takeWhile_number {n : Number} (hn : n.Valid) (hrest : Breaks rest) :
    (n.text ++ rest).takeWhile isNumberChar = n.text := by
  obtain ⟨c, chars, htext, hc, hchars⟩ := numberChars_of_read? (Number.read?_text hn)
  have hall : ∀ d ∈ n.text, isNumberChar d = true := by
    rw [htext]
    rintro d (- | ⟨-, hd⟩)
    · rw [Bool.or_eq_true, decide_eq_true_eq] at hc
      rcases hc with hdigit | rfl
      · exact isNumberChar_of_isDigit hdigit
      · decide
    · exact hchars d hd
  rw [List.takeWhile_append_of_pos hall]
  cases rest with
  | nil => simp
  | cons c rest => simp [(hrest c rfl).2]

lemma determined_num {n : Number} (hn : n.Valid) : Determined depth (.num n) := by
  intro room w rest rest' hw hreread hrest hrest' htext
  cases hw with
  | @num _ n' hn' =>
    rw [prettyText, prettyText] at htext
    have hnumber := takeWhile_number hn hrest
    rw [htext, takeWhile_number hn' hrest'] at hnumber
    obtain rfl := Number.text_inj hn hn' hnumber.symm
    exact ⟨rfl, List.append_cancel_left htext⟩
  | _ => cases hreread

/-! ## Items and members -/

lemma eq_of_prettyItems {items items' : List Json} (h : ∀ v ∈ items, Determined depth v)
    (h' : ∀ w ∈ items', Legible room w) (hreread : items.map reread = items'.map reread)
    (hrest : Breaks rest) (hrest' : Breaks rest')
    (htext : prettyItems depth items ++ rest = prettyItems depth items' ++ rest') :
    items = items' ∧ rest = rest' := by
  induction items generalizing items' with
  | nil =>
    obtain rfl : items' = [] := List.map_eq_nil_iff.1 hreread.symm
    exact ⟨rfl, htext⟩
  | cons v items ih =>
    obtain ⟨w, items', rfl⟩ : ∃ w ws, items' = w :: ws := by
      cases items' with
      | nil => cases hreread
      | cons w ws => exact ⟨w, ws, rfl⟩
    obtain ⟨hfirst, hlater⟩ := List.cons.inj hreread
    simp only [prettyItems, List.cons_append, List.append_assoc] at htext
    obtain ⟨rfl, hnext⟩ := h v List.mem_cons_self (h' w List.mem_cons_self) hfirst
      (breaks_prettyItems hrest depth items) (breaks_prettyItems hrest' depth items')
      (List.append_cancel_left (List.cons.inj htext).2)
    obtain ⟨rfl, hend⟩ := ih (fun u hu => h u (List.mem_cons_of_mem _ hu))
      (fun u hu => h' u (List.mem_cons_of_mem _ hu)) hlater hnext
    exact ⟨rfl, hend⟩

lemma eq_of_prettyMembers {members members' : List (String × Json)}
    (h : ∀ member ∈ members, Determined depth member.2)
    (h' : ∀ member ∈ members', Legible room member.2)
    (hreread : rereadMembers members = rereadMembers members') (hrest : Breaks rest)
    (hrest' : Breaks rest')
    (htext : prettyMembers depth members ++ rest = prettyMembers depth members' ++ rest') :
    members = members' ∧ rest = rest' := by
  induction members generalizing members' with
  | nil =>
    cases members' with
    | nil => exact ⟨rfl, htext⟩
    | cons => cases hreread
  | cons member members ih =>
    obtain ⟨k, v⟩ := member
    cases members' with
    | nil => cases hreread
    | cons member' members' =>
      obtain ⟨k', w⟩ := member'
      obtain ⟨hmember, hlater⟩ := List.cons.inj hreread
      obtain ⟨rfl, hfirst⟩ := Prod.mk.inj hmember
      simp only [prettyMembers, List.cons_append, List.append_assoc] at htext
      obtain ⟨rfl, hnext⟩ := h (k, v) List.mem_cons_self (h' (k, w) List.mem_cons_self) hfirst
        (breaks_prettyMembers hrest depth members) (breaks_prettyMembers hrest' depth members')
        (by simpa using htext)
      obtain ⟨rfl, hend⟩ := ih (fun u hu => h u (List.mem_cons_of_mem _ hu))
        (fun u hu => h' u (List.mem_cons_of_mem _ hu)) hlater hnext
      exact ⟨rfl, hend⟩

/-! ## Values -/

lemma determined_arr {items : List Json} (h : ∀ v ∈ items, Determined (depth + 1) v) :
    Determined depth (.arr items) := by
  intro room w rest rest' hw hreread hrest hrest' htext
  cases hw with
  | @arr room items' hitems' =>
    rw [reread_arr, reread_arr, arr.injEq] at hreread
    cases items with
    | nil =>
      obtain rfl : items' = [] := List.map_eq_nil_iff.1 hreread.symm
      exact ⟨rfl, List.append_cancel_left htext⟩
    | cons v items =>
      cases items' with
      | nil => cases hreread
      | cons w items' =>
        obtain ⟨hfirst, hlater⟩ := List.cons.inj hreread
        simp only [prettyText, List.cons_append, List.append_assoc] at htext
        have hend := breaks_newline depth (']' :: rest)
        have hend' := breaks_newline depth (']' :: rest')
        obtain ⟨rfl, hnext⟩ := h v List.mem_cons_self (hitems' w List.mem_cons_self) hfirst
          (breaks_prettyItems hend _ items) (breaks_prettyItems hend' _ items')
          (by simpa using htext)
        obtain ⟨rfl, hclose⟩ := eq_of_prettyItems (fun u hu => h u (List.mem_cons_of_mem _ hu))
          (fun u hu => hitems' u (List.mem_cons_of_mem _ hu)) hlater hend hend' hnext
        exact ⟨rfl, by simpa using hclose⟩
  | _ => cases hreread

lemma determined_obj {members : List (String × Json)}
    (h : ∀ member ∈ members, Determined (depth + 1) member.2) :
    Determined depth (.obj members) := by
  intro room w rest rest' hw hreread hrest hrest' htext
  cases hw with
  | @obj room members' hmembers' =>
    rw [reread, reread, obj.injEq] at hreread
    cases members with
    | nil =>
      cases members' with
      | nil => exact ⟨rfl, List.append_cancel_left htext⟩
      | cons => cases hreread
    | cons member members =>
      obtain ⟨k, v⟩ := member
      cases members' with
      | nil => cases hreread
      | cons member' members' =>
        obtain ⟨k', w⟩ := member'
        obtain ⟨hmember, hlater⟩ := List.cons.inj hreread
        obtain ⟨rfl, hfirst⟩ := Prod.mk.inj hmember
        simp only [prettyText, List.cons_append, List.append_assoc] at htext
        have hend := breaks_newline depth ('\x7d' :: rest)
        have hend' := breaks_newline depth ('\x7d' :: rest')
        obtain ⟨rfl, hnext⟩ := h (k, v) List.mem_cons_self (hmembers' (k, w) List.mem_cons_self)
          hfirst (breaks_prettyMembers hend _ members) (breaks_prettyMembers hend' _ members')
          (by simpa using htext)
        obtain ⟨rfl, hclose⟩ := eq_of_prettyMembers
          (fun u hu => h u (List.mem_cons_of_mem _ hu))
          (fun u hu => hmembers' u (List.mem_cons_of_mem _ hu)) hlater hend hend' hnext
        exact ⟨rfl, by simpa using hclose⟩
  | _ => cases hreread

/-- A value that is read as itself is determined by what is read. -/
lemma determined_of_flat {v : Json} (h : ∀ {room : ℕ} {w : Json}, Legible room w →
    v.reread = w.reread → v = w) : Determined depth v := by
  intro room w rest rest' hw hreread _ _ htext
  obtain rfl := h hw hreread
  exact ⟨rfl, List.append_cancel_left htext⟩

lemma Legible.determined {v : Json} (h : Legible room v) (depth : ℕ) : Determined depth v := by
  induction h generalizing depth with
  | num hn => exact determined_num hn
  | arr _ ih => exact determined_arr fun v hv => ih v hv (depth + 1)
  | obj _ ih => exact determined_obj fun member hmember => ih member hmember (depth + 1)
  | null | bool b | str s =>
    refine determined_of_flat fun hw hreread => ?_
    cases hw <;> cases hreread
    rfl

/-- Different values have different texts. -/
theorem pretty_inj {v w : Json} (hv : Legible depthLimit v) (hw : Legible depthLimit w)
    (h : v.pretty = w.pretty) : v = w := by
  have hread := parse_pretty hv
  rw [h, parse_pretty hw, Option.some_inj] at hread
  have htext : prettyText 0 v ++ [] = prettyText 0 w ++ [] := by
    rw [List.append_nil, List.append_nil]
    exact String.ofList_inj.1 h
  exact (hv.determined 0 hw hread.symm breaks_nil breaks_nil htext).1

end Atelier.Json

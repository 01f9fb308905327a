/-
Numbers in base sixteen, and texts in pieces.

The digits of a number are read back as the number, and zeros in front of them do not matter.  What
stands on both sides of a separator is cut into pieces on its own.
-/
import Mathlib.Tactic.Common
import Atelier.Text.Digits

namespace Atelier

/-! ## Digits -/

/-- A digit is read as its value. -/
lemma hexDigit?_digitChar {n : Nat} (h : n < 16) : hexDigit? n.digitChar = some n := by
  revert n
  decide

/-- The last digit counts once, all before it count `base` times. -/
lemma valueIn?_concat (base : Nat) (digits : List Char) (c : Char) :
    valueIn? base (digits ++ [c]) = (valueIn? base digits).bind fun n =>
      (hexDigit? c).bind fun d => if d < base then some (base * n + d) else none := by
  simp [valueIn?, List.foldlM_append]

lemma valueIn?_replicate_zero_append (k : Nat) (digits : List Char) :
    valueIn? 16 (List.replicate k '0' ++ digits) = valueIn? 16 digits := by
  induction k with
  | zero => rfl
  | succ k ih => exact ih

lemma hexText_of_lt {n : Nat} (h : n < 16) : hexText n = [n.digitChar] :=
  Nat.toDigits_of_lt_base h

lemma hexText_of_le {n : Nat} (h : 16 ≤ n) :
    hexText n = hexText (n / 16) ++ [(n % 16).digitChar] :=
  Nat.toDigits_of_base_le (by omega) h

/-- The digits of a number are read as the number. -/
lemma valueIn?_hexText (n : Nat) : valueIn? 16 (hexText n) = some n := by
  induction n using Nat.strongRecOn with
  | ind n ih =>
    by_cases hn : n < 16
    · have hdigit := hexDigit?_digitChar hn
      rw [hexText_of_lt hn, ← List.nil_append [_], valueIn?_concat, hdigit]
      simp [valueIn?, hn]
    · have hlast : n % 16 < 16 := Nat.mod_lt n (by omega)
      have hrest := ih (n / 16) (by omega)
      have hdigit := hexDigit?_digitChar hlast
      rw [hexText_of_le (by omega), valueIn?_concat, hrest, hdigit, Option.bind_some,
        Option.bind_some, if_pos hlast, Nat.div_add_mod]

/-- Only digits stand in the text of a number. -/
lemma exists_digit_of_mem_hexText {n : Nat} {c : Char} (h : c ∈ hexText n) :
    ∃ d < 16, c = d.digitChar := by
  induction n using Nat.strongRecOn with
  | ind n ih =>
    by_cases hn : n < 16
    · rw [hexText_of_lt hn, List.mem_singleton] at h
      exact ⟨n, hn, h⟩
    · rw [hexText_of_le (by omega), List.mem_append, List.mem_singleton] at h
      rcases h with h | rfl
      · exact ih (n / 16) (by omega) h
      · exact ⟨n % 16, Nat.mod_lt n (by omega), rfl⟩

/-! ## Pieces -/

lemma pieces_ne_nil (separates : Char → Bool) (text : List Char) : pieces separates text ≠ [] := by
  cases text with
  | nil => exact List.cons_ne_nil _ _
  | cons c text =>
    unfold pieces
    split
    · exact List.cons_ne_nil _ _
    · split <;> exact List.cons_ne_nil _ _

/-- Nothing is cut where nothing separates. -/
lemma pieces_eq_singleton {separates : Char → Bool} {text : List Char}
    (h : ∀ c ∈ text, separates c = false) : pieces separates text = [text] := by
  induction text with
  | nil => rfl
  | cons c text ih =>
    have hrest := ih fun d hd => h d (List.mem_cons_of_mem c hd)
    rw [pieces, h c (by simp), hrest]
    rfl

/-- A separator parts the pieces before it from those after it. -/
lemma pieces_append_cons {separates : Char → Bool} {mark : Char} (h : separates mark = true)
    (before after : List Char) :
    pieces separates (before ++ mark :: after) =
      pieces separates before ++ pieces separates after := by
  induction before with
  | nil =>
    show pieces separates (mark :: after) = [] :: pieces separates after
    rw [pieces, if_pos h]
  | cons c before ih =>
    rw [List.cons_append, pieces, ih, pieces]
    split
    · rfl
    · obtain ⟨piece, others, heq⟩ := List.exists_cons_of_ne_nil (pieces_ne_nil separates before)
      rw [heq]
      rfl

end Atelier

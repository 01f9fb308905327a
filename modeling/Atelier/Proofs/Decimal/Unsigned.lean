/-
Natural numbers that stand in a text.

A number is read from its digits, after a plus sign or none (`readUnsigned?_eq_some_iff`), and
from a longer text if there is nothing but white space around them (`readUnsigned?_trim_iff`).
-/
import Atelier.Decimal.Literal
import Atelier.Proofs.Decimal.Text
import Atelier.Proofs.Text.Bare

namespace Atelier

/-- A text holds the digits of a number, after a plus sign or none, and otherwise white space.
Zeros may stand in front of the digits. -/
def HoldsNatural (text : List Char) (n : ℕ) : Prop :=
  ∃ before sign digits after, text = before ++ (sign ++ digits) ++ after ∧
    (∀ c ∈ before, isBlank c = true) ∧ (∀ c ∈ after, isBlank c = true) ∧
    (sign = [] ∨ sign = ['+']) ∧ digits ≠ [] ∧ Digits digits ∧ digitsValue digits = n

variable {bound n : ℕ} {text digits sign : List Char}

lemma isBlank_of_digits (h : Digits digits) {c : Char} (hc : c ∈ digits) : isBlank c = false :=
  isBlank_of_isBare (isBare_of_isDigit (h c hc))

/-- Nothing but digits and a plus sign in front of them is a number. -/
lemma readUnsigned?_eq_some_iff :
    readUnsigned? bound text = some n ↔
      ∃ sign digits, text = sign ++ digits ∧ (sign = [] ∨ sign = ['+']) ∧ digits ≠ [] ∧
        Digits digits ∧ digitsValue digits = n ∧ n < bound := by
  have hdigits {digits : List Char} :
      (if digits.isEmpty || !digits.all Char.isDigit then none
        else if digitsValue digits < bound then some (digitsValue digits) else none) = some n ↔
      digits ≠ [] ∧ Digits digits ∧ digitsValue digits = n ∧ n < bound := by
    simp only [Option.ite_none_left_eq_some, Option.ite_none_right_eq_some, Option.some.injEq,
      Bool.or_eq_true, not_or, List.isEmpty_iff, Bool.not_eq_true', Bool.not_eq_false,
      List.all_eq_true]
    constructor
    · rintro ⟨⟨hne, hall⟩, hlt, rfl⟩
      exact ⟨hne, hall, rfl, hlt⟩
    · rintro ⟨hne, hall, rfl, hlt⟩
      exact ⟨⟨hne, hall⟩, hlt, rfl⟩
  unfold readUnsigned?
  constructor
  · intro h
    simp only at h
    split at h
    · exact ⟨['+'], _, rfl, .inr rfl, hdigits.1 h⟩
    · exact ⟨[], text, rfl, .inl rfl, hdigits.1 h⟩
  · rintro ⟨sign, digits, rfl, rfl | rfl, h⟩
    · simp only
      split
      · -- A plus sign is no digit.
        rename_i rest heq
        obtain rfl : digits = '+' :: rest := heq
        cases h.2.1 '+' List.mem_cons_self
      · exact hdigits.2 h
    · exact hdigits.2 h

/-- White space around a number does not matter. -/
lemma readUnsigned?_trim_iff :
    readUnsigned? bound (trim text) = some n ↔ HoldsNatural text n ∧ n < bound := by
  rw [readUnsigned?_eq_some_iff]
  constructor
  · rintro ⟨sign, digits, htrim, hsign, hne, hdigits, hvalue, hlt⟩
    obtain ⟨before, after, htext, hbefore, hafter⟩ := exists_around_trim text
    rw [htrim] at htext
    exact ⟨⟨before, sign, digits, after, htext, hbefore, hafter, hsign, hne, hdigits, hvalue⟩,
      hlt⟩
  · rintro ⟨⟨before, sign, digits, after, rfl, hbefore, hafter, hsign, hne, hdigits, hvalue⟩, hlt⟩
    have hmiddle : ∀ c ∈ sign ++ digits, isBlank c = false := by
      intro c hc
      rcases List.mem_append.1 hc with hc | hc
      · rcases hsign with rfl | rfl
        · cases hc
        · obtain rfl := List.mem_singleton.1 hc
          rfl
      · exact isBlank_of_digits hdigits hc
    exact ⟨sign, digits, trim_append hbefore hmiddle hafter, hsign, hne, hdigits, hvalue, hlt⟩

/-- Different numbers have different texts. -/
lemma toString_inj {n m : ℕ} : toString n = toString m ↔ n = m := by
  refine ⟨fun h => ?_, fun h => by rw [h]⟩
  have htext : naturalText n = naturalText m := String.ofList_injective h
  rw [← digitsValue_naturalText n, htext, digitsValue_naturalText]

end Atelier

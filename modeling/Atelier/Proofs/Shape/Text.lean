/-
Identifiers, kinds and slopes as text.

The text of an identifier is read back as the identifier (`ShapeId.parse?_text`): its 32 digits
stand in five groups, and without the hyphens they are the digits again.
-/
import Mathlib.Tactic.Common
import Atelier.Proofs.Text.Bare
import Atelier.Proofs.Text.Digits
import Atelier.Shape.Basic

namespace Atelier

/-! ## Names -/

@[simp] lemma ShapeKind.ofName?_name (kind : ShapeKind) : ofName? kind.name = some kind := by
  cases kind <;> rfl

@[simp] lemma Slope.ofName?_name (slope : Slope) : ofName? slope.name = some slope := by
  cases slope <;> rfl

namespace ShapeId

/-! ## Groups of digits -/

lemma hyphenate_cons {size : Nat} {sizes : List Nat} (h : sizes ≠ []) (digits : List Char) :
    hyphenate (size :: sizes) digits =
      digits.take size ++ '-' :: hyphenate sizes (digits.drop size) := by
  cases sizes with
  | nil => exact absurd rfl h
  | cons => rfl

/-- Hyphens between the groups are taken out again. -/
lemma filter_hyphenate (sizes : List Nat) {digits : List Char} (h : '-' ∉ digits) :
    (hyphenate sizes digits).filter (· ≠ '-') = digits := by
  have hplain {text : List Char} (htext : '-' ∉ text) : text.filter (· ≠ '-') = text := by
    rw [List.filter_eq_self]
    intro c hc
    simp only [decide_eq_true_eq]
    rintro rfl
    exact htext hc
  induction sizes, digits using hyphenate.induct with
  | case1 digits => exact hplain h
  | case2 _ digits => exact hplain h
  | case3 size sizes digits hne ih =>
    have htake : '-' ∉ digits.take size := fun hmem => h (List.mem_of_mem_take hmem)
    have hdrop : '-' ∉ digits.drop size := fun hmem => h (List.mem_of_mem_drop hmem)
    rw [hyphenate_cons hne, List.filter_append, hplain htake,
      List.filter_cons_of_neg (by simp), ih hdrop, List.take_append_drop]

/-- A hyphen stands between any two groups. -/
lemma length_hyphenate {sizes : List Nat} (hsizes : sizes ≠ []) (digits : List Char) :
    (hyphenate sizes digits).length = digits.length + (sizes.length - 1) := by
  induction sizes, digits using hyphenate.induct with
  | case1 digits => exact absurd rfl hsizes
  | case2 size digits => rfl
  | case3 size sizes digits hne ih =>
    have hpos : 0 < sizes.length := List.length_pos_iff.2 hne
    rw [hyphenate_cons hne, List.length_append, List.length_cons, ih hne, List.length_take,
      List.length_drop, List.length_cons]
    omega

lemma mem_of_mem_hyphenate {sizes : List Nat} {digits : List Char} {c : Char}
    (h : c ∈ hyphenate sizes digits) : c = '-' ∨ c ∈ digits := by
  by_cases hc : c = '-'
  · exact .inl hc
  · right
    induction sizes, digits using hyphenate.induct with
    | case1 digits => exact h
    | case2 size digits => exact h
    | case3 size sizes digits hne ih =>
      rw [hyphenate_cons hne, List.mem_append, List.mem_cons] at h
      rcases h with h | rfl | h
      · exact List.mem_of_mem_take h
      · exact absurd rfl hc
      · exact List.mem_of_mem_drop (ih h)

/-- Digits in groups are read as the digits. -/
lemma unhyphenate?_hyphenate {digits : List Char} (hlength : digits.length = 32)
    (h : '-' ∉ digits) : unhyphenate? (hyphenate groups digits) = some digits := by
  rw [unhyphenate?, filter_hyphenate groups h]
  exact if_pos ⟨hlength, rfl⟩

/-! ## Identifiers -/

variable (id : ShapeId)

lemma length_digits : id.digits.length = 32 := by
  have hlt : id.value.toNat < 16 ^ 32 := id.value.isLt
  have hle : (hexText id.value.toNat).length ≤ 32 :=
    (Nat.length_toDigits_le_iff (by omega) (by omega)).2 hlt
  rw [digits, List.length_append, List.length_replicate]
  omega

lemma exists_digit_of_mem_digits {id : ShapeId} {c : Char} (h : c ∈ id.digits) :
    ∃ d < 16, c = d.digitChar := by
  rw [digits, List.mem_append] at h
  rcases h with h | h
  · exact ⟨0, by omega, List.eq_of_mem_replicate h⟩
  · exact exists_digit_of_mem_hexText h

lemma hyphen_not_mem_digits : '-' ∉ id.digits := by
  intro h
  obtain ⟨d, hd, hhyphen⟩ := exists_digit_of_mem_digits h
  revert d
  decide

/-- Digits and hyphens stand in the text of an identifier. -/
lemma isBare_of_mem_text {id : ShapeId} {c : Char} (h : c ∈ id.text.toList) :
    isBare c = true := by
  have hdigit : ∀ d < 16, isBare d.digitChar = true := by decide
  rw [text, String.toList_ofList] at h
  rcases mem_of_mem_hyphenate h with rfl | h
  · rfl
  · obtain ⟨d, hd, rfl⟩ := exists_digit_of_mem_digits h
    exact hdigit d hd

/-- The text of an identifier is read back as the identifier. -/
lemma parse?_text : parse? id.text = some id := by
  have hlength : (hyphenate groups id.digits).length = 36 := by
    rw [length_hyphenate (by decide), length_digits]
    rfl
  have hdigits : textDigits? id.text.toList = some id.digits := by
    rw [text, String.toList_ofList, textDigits?, if_neg (by omega), if_pos hlength]
    exact unhyphenate?_hyphenate id.length_digits id.hyphen_not_mem_digits
  have hvalue : valueIn? 16 id.digits = some id.value.toNat := by
    rw [digits, valueIn?_replicate_zero_append, valueIn?_hexText]
  simp [parse?, hdigits, hvalue, ofNat]

end ShapeId

end Atelier

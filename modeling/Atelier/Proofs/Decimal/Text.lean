/-
Decimals as text.

A text that spells a decimal is scanned into a numeral of the same value.  The digits may move
across the point, and zeros be added on either side; the value is computed from all digits and
the place of the last one.
-/
import Atelier.Decimal.Layout
import Atelier.Decimal.Literal
import Atelier.Proofs.Decimal.Shortest

namespace Atelier

/-! ## Digits -/

/-- A text of digits only. -/
def Digits (text : List Char) : Prop :=
  ∀ c ∈ text, c.isDigit = true

lemma digits_naturalText (n : ℕ) : Digits (naturalText n) :=
  fun _ hc => Nat.isDigit_of_mem_toDigits (by norm_num) (by norm_num) hc

lemma digits_replicate_zero (n : ℕ) : Digits (List.replicate n '0') := by
  intro c hc
  rw [List.eq_of_mem_replicate hc]
  rfl

lemma Digits.append {text text' : List Char} (h : Digits text) (h' : Digits text') :
    Digits (text ++ text') := by
  intro c hc
  rcases List.mem_append.1 hc with hc | hc
  · exact h c hc
  · exact h' c hc

lemma Digits.of_append_left {text text' : List Char} (h : Digits (text ++ text')) : Digits text :=
  fun c hc => h c (List.mem_append_left _ hc)

lemma Digits.of_append_right {text text' : List Char} (h : Digits (text ++ text')) :
    Digits text' :=
  fun c hc => h c (List.mem_append_right _ hc)

lemma naturalText_ne_nil (n : ℕ) : naturalText n ≠ [] :=
  Nat.toDigits_ne_nil

lemma head?_naturalText {n : ℕ} (hn : 0 < n) : (naturalText n).head? ≠ some '0' := by
  induction n using Nat.strongRecOn with
  | ind n ih =>
    rw [naturalText]
    by_cases hlt : n < 10
    · have hdigit : ∀ k < 10, 0 < k → [Nat.digitChar k].head? ≠ some '0' := by decide
      rw [Nat.toDigits_of_lt_base hlt]
      exact hdigit n hlt hn
    · rw [Nat.toDigits_of_base_le (by norm_num) (by omega),
        List.head?_append_of_ne_nil _ Nat.toDigits_ne_nil]
      exact ih (n / 10) (by omega) (by omega)

@[simp] lemma digitsValue_naturalText (n : ℕ) : digitsValue (naturalText n) = n :=
  Nat.ofDigitChars_ten_toDigits

lemma digitsValue_append (text text' : List Char) :
    digitsValue (text ++ text') = 10 ^ text'.length * digitsValue text + digitsValue text' := by
  show Nat.ofDigitChars 10 (text ++ text') 0 = _
  rw [Nat.ofDigitChars_append, Nat.ofDigitChars_eq_ofDigitChars_zero]
  rfl

@[simp] lemma digitsValue_replicate_zero (n : ℕ) : digitsValue (List.replicate n '0') = 0 := by
  show Nat.ofDigitChars 10 (List.replicate n '0') 0 = 0
  rw [Nat.ofDigitChars_replicate_zero, Nat.mul_zero]

/-! ## Scanning -/

namespace Numeral

/-- No digit stands first. -/
def NoDigit (text : List Char) : Prop :=
  ∀ c ∈ text.head?, c.isDigit = false

lemma takeWhile_digits {digits rest : List Char} (h : Digits digits) (hrest : NoDigit rest) :
    (digits ++ rest).takeWhile Char.isDigit = digits := by
  rw [List.takeWhile_append_of_pos h]
  cases rest with
  | nil => simp
  | cons c rest => simp [hrest c rfl]

lemma dropWhile_digits {digits rest : List Char} (h : Digits digits) (hrest : NoDigit rest) :
    (digits ++ rest).dropWhile Char.isDigit = rest := by
  rw [List.dropWhile_append_of_pos h]
  cases rest with
  | nil => rfl
  | cons c rest => simp [hrest c rfl]

/-- A text that begins with a digit has no sign. -/
lemma splitSign_digits {digits : List Char} (h : Digits digits) (hne : digits ≠ [])
    (rest : List Char) : splitSign (digits ++ rest) = (none, digits ++ rest) := by
  obtain ⟨c, digits, rfl⟩ := List.exists_cons_of_ne_nil hne
  have hc : c.isDigit = true := h c (by simp)
  have hplus : c ≠ '+' := by
    rintro rfl
    cases hc
  have hminus : c ≠ '-' := by
    rintro rfl
    cases hc
  rw [List.cons_append]
  unfold splitSign
  split
  · rename_i heq
    exact absurd (List.cons.inj heq).1 hplus
  · rename_i heq
    exact absurd (List.cons.inj heq).1 hminus
  · rfl

variable {whole fraction after : List Char} {power : Option (Bool × List Char)}

/-- Digits and a power, without a point. -/
lemma scan_whole (hwhole : Digits whole) (hne : whole ≠ []) (hafter : NoDigit after)
    (hpoint : after.head? ≠ some '.') (hpower : scanPower after = some power) :
    scan (whole ++ after) = some ⟨none, whole, none, power⟩ := by
  simp only [scan, splitSign_digits hwhole hne, takeWhile_digits hwhole hafter,
    dropWhile_digits hwhole hafter]
  split
  · simp at hpoint
  · simp [hpower]

/-- Digits, a point with digits, and a power. -/
lemma scan_point (hwhole : Digits whole) (hne : whole ≠ []) (hfraction : Digits fraction)
    (hafter : NoDigit after) (hpower : scanPower after = some power) :
    scan (whole ++ '.' :: (fraction ++ after)) = some ⟨none, whole, some fraction, power⟩ := by
  have hpoint : NoDigit ('.' :: (fraction ++ after)) := by
    rintro c hc
    obtain rfl := Option.some.inj hc
    rfl
  simp only [scan, splitSign_digits hwhole hne, takeWhile_digits hwhole hpoint,
    dropWhile_digits hwhole hpoint, takeWhile_digits hfraction hafter,
    dropWhile_digits hfraction hafter]
  simp [hpower]

/-- A sign and what follows it are the text. -/
lemma splitSign_append (text : List Char) :
    (splitSign text).1.toList ++ (splitSign text).2 = text := by
  unfold splitSign
  split <;> rfl

/-- A numeral begins with its sign and its whole digits. -/
lemma sign_and_whole_of_scan {text : List Char} {numeral : Numeral}
    (h : scan text = some numeral) :
    numeral.sign = (splitSign text).1 ∧
      numeral.whole = (splitSign text).2.takeWhile Char.isDigit := by
  simp only [scan, Option.bind_eq_bind] at h
  split at h <;> obtain ⟨power, -, hnumeral⟩ := Option.bind_eq_some_iff.1 h <;>
    rw [← Option.some.inj hnumeral] <;> exact ⟨rfl, rfl⟩

lemma sign_of_scan {text : List Char} {numeral : Numeral} (h : scan text = some numeral) :
    numeral.sign = (splitSign text).1 :=
  (sign_and_whole_of_scan h).1

/-- A minus sign before a numeral without a sign. -/
lemma scan_minus {text : List Char} {numeral : Numeral} (h : scan text = some numeral)
    (hsign : numeral.sign = none) :
    scan ('-' :: text) = some { numeral with sign := some '-' } := by
  have hsplit := splitSign_append text
  rw [← sign_of_scan h, hsign, Option.toList_none, List.nil_append] at hsplit
  have hminus : splitSign ('-' :: text) = (some '-', text) := rfl
  simp only [scan, hsplit, hminus, Option.bind_eq_bind] at h ⊢
  split at h
  case h_1 rest hpoint =>
    obtain ⟨power, hpower, hnumeral⟩ := Option.bind_eq_some_iff.1 h
    simp [hpower, ← Option.some.inj hnumeral]
  case h_2 hpoint =>
    obtain ⟨power, hpower, hnumeral⟩ := Option.bind_eq_some_iff.1 h
    simp [hpower, ← Option.some.inj hnumeral]

/-- The power of ten at the end of a text. -/
lemma scanPower_integerText {plus : List Char} (hplus : plus = [] ∨ plus = ['+']) (p : ℤ) :
    scanPower ('e' :: ((if 0 ≤ p then plus else []) ++ integerText p)) =
      some (some (decide (p < 0), naturalText p.natAbs)) := by
  have hempty (n : ℕ) : (naturalText n).isEmpty = false := by
    simpa using naturalText_ne_nil n
  have hall (n : ℕ) : (naturalText n).all Char.isDigit = true := by
    rw [List.all_eq_true]
    exact digits_naturalText n
  have hplain (n : ℕ) : splitSign (naturalText n) = (none, naturalText n) := by
    simpa using splitSign_digits (digits_naturalText n) (naturalText_ne_nil n) []
  have hsigned (n : ℕ) : splitSign ('+' :: naturalText n) = (some '+', naturalText n) := rfl
  have hminus (n : ℕ) : splitSign ('-' :: naturalText n) = (some '-', naturalText n) := rfl
  cases p with
  | ofNat n => rcases hplus with rfl | rfl <;> simp [scanPower, integerText, *]
  | negSucc n => simp [scanPower, integerText, *]

/-! ## Spelling a decimal -/

/-- The number that a numeral denotes, apart from its sign. -/
def value (x : Numeral) : ℚ :=
  x.coefficient * 10 ^ x.exponent

/-- A text is scanned into a numeral with a point or a power of ten.  There are digits before
the point, the first of several is not zero, and digits follow a point. -/
structure Spells (text : List Char) (numeral : Numeral) : Prop where
  scan : scan text = some numeral
  sign : numeral.sign = none
  whole : numeral.whole ≠ []
  leading : 1 < numeral.whole.length → numeral.whole.head? ≠ some '0'
  fraction : numeral.fraction ≠ some []
  marked : numeral.fraction.isSome = true ∨ numeral.power.isSome = true

lemma noDigit_nil : NoDigit [] := by
  simp [NoDigit]

lemma noDigit_cons {c : Char} (hc : c.isDigit = false) (text : List Char) :
    NoDigit (c :: text) := by
  simp [NoDigit, hc]

/-- Digits with a point among them. -/
lemma exists_spells_point {text : List Char} {r : ℚ} (whole fraction : List Char)
    (htext : text = whole ++ '.' :: fraction) (hwhole : Digits whole) (hne : whole ≠ [])
    (hleading : 1 < whole.length → whole.head? ≠ some '0') (hfraction : Digits fraction)
    (hne' : fraction ≠ [])
    (hvalue : (digitsValue (whole ++ fraction) : ℚ) * 10 ^ (-(fraction.length : ℤ)) = r) :
    ∃ numeral, Spells text numeral ∧ numeral.value = r ∧
      numeral.exponent = -(fraction.length : ℤ) := by
  have hscan := scan_point hwhole hne hfraction noDigit_nil rfl
  rw [List.append_nil, ← htext] at hscan
  refine ⟨_, ⟨hscan, rfl, hne, hleading, by simpa using hne', .inl rfl⟩, ?_, ?_⟩
  · rw [← hvalue, value, coefficient, exponent, zero_sub]
    rfl
  · rw [exponent, zero_sub]
    rfl

lemma exponent_of_power (whole : List Char) (fraction : Option (List Char)) (p : ℤ) :
    exponent ⟨none, whole, fraction, some (decide (p < 0), naturalText p.natAbs)⟩ =
      p - (fraction.getD []).length := by
  cases p with
  | ofNat n =>
    have hsign : decide ((n : ℤ) < 0) = false := by simp
    simp [exponent, hsign]
  | negSucc n =>
    have hsign : decide (Int.negSucc n < 0) = true := by simp
    rw [exponent, hsign, Int.natAbs_negSucc]
    simp only [digitsValue_naturalText]
    rfl

end Numeral

namespace Decimal

open Numeral (Spells exists_spells_point)

variable {x : Decimal}

/-- All digits before the point, with zeros after them. -/
lemma spells_whole (hx : 0 < x.coefficient) (he : 0 ≤ x.exponent) :
    ∃ numeral, Spells (x.positional ['.', '0']) numeral ∧ numeral.value = x.value ∧
      numeral.exponent = min x.exponent (-1) := by
  have hne := naturalText_ne_nil x.coefficient
  have hdigits := (digits_naturalText x.coefficient).append
    (digits_replicate_zero x.exponent.toNat)
  rw [min_eq_right (by omega : -1 ≤ x.exponent)]
  refine exists_spells_point _ ['0'] ?_ hdigits (by simp [hne]) ?_ (digits_replicate_zero 1)
    (by simp) ?_
  · simp [positional, he]
  · intro _
    rw [List.head?_append_of_ne_nil _ hne]
    exact head?_naturalText hx
  · obtain ⟨c, e⟩ := x
    obtain ⟨k, rfl⟩ := Int.eq_ofNat_of_zero_le he
    have hlast : digitsValue ['0'] = 0 := rfl
    simp only [digitsValue_append, digitsValue_naturalText, digitsValue_replicate_zero, hlast,
      value, List.length_replicate, List.length_singleton, Int.toNat_natCast]
    push_cast
    rw [zpow_natCast, zpow_neg_one]
    field_simp
    ring

/-- The point among the digits. -/
lemma spells_split (hx : 0 < x.coefficient) (he : x.exponent < 0)
    (hpoint : 0 < (naturalText x.coefficient).length + x.exponent) :
    ∃ numeral, Spells (x.positional ['.', '0']) numeral ∧ numeral.value = x.value ∧
      numeral.exponent = min x.exponent (-1) := by
  obtain ⟨k, hk⟩ := Int.eq_ofNat_of_zero_le hpoint.le
  have hsplit := List.take_append_drop k (naturalText x.coefficient)
  have hdigits := digits_naturalText x.coefficient
  have hlength : -(((naturalText x.coefficient).drop k).length : ℤ) = x.exponent := by
    rw [List.length_drop]
    omega
  rw [← hsplit] at hdigits
  rw [min_eq_left (by omega)]
  refine hlength ▸ exists_spells_point _ _ ?_ hdigits.of_append_left ?_ (fun _ => ?_)
    hdigits.of_append_right ?_ ?_
  · rw [hk] at hpoint
    simp only [positional, not_le.2 he, hpoint, if_true, if_false, hk]
    rfl
  · intro hnil
    rcases List.take_eq_nil_iff.1 hnil with hzero | hnil
    · omega
    · exact naturalText_ne_nil _ hnil
  · -- The first digit before the point is the first of all.
    rw [List.head?_take, if_neg (by omega)]
    exact head?_naturalText hx
  · intro hnil
    rw [List.drop_eq_nil_iff] at hnil
    omega
  · rw [hsplit, digitsValue_naturalText, hlength, value]

/-- All digits after the point, with zeros before them. -/
lemma spells_fraction (he : x.exponent < 0)
    (hpoint : (naturalText x.coefficient).length + x.exponent ≤ 0) :
    ∃ numeral, Spells (x.positional ['.', '0']) numeral ∧ numeral.value = x.value ∧
      numeral.exponent = min x.exponent (-1) := by
  have hne := naturalText_ne_nil x.coefficient
  obtain ⟨k, hk⟩ := Int.eq_ofNat_of_zero_le (Int.neg_nonneg_of_nonpos hpoint)
  have hdigits := (digits_replicate_zero k).append (digits_naturalText x.coefficient)
  have hlength : -((List.replicate k '0' ++ naturalText x.coefficient).length : ℤ) =
      x.exponent := by
    rw [List.length_append, List.length_replicate]
    omega
  rw [min_eq_left (by omega)]
  refine hlength ▸ exists_spells_point ['0'] _ ?_ (digits_replicate_zero 1) (by simp) (by simp)
    hdigits (by simp [hne]) ?_
  · simp only [positional, not_le.2 he, not_lt.2 hpoint, if_false, hk]
    rfl
  · have hfirst : digitsValue ['0'] = 0 := rfl
    rw [digitsValue_append, hfirst, digitsValue_append, digitsValue_replicate_zero,
      digitsValue_naturalText, hlength, value]
    simp

/-- Without an exponent. -/
lemma spells_positional (hx : 0 < x.coefficient) :
    ∃ numeral, Spells (x.positional ['.', '0']) numeral ∧ numeral.value = x.value ∧
      numeral.exponent = min x.exponent (-1) := by
  by_cases he : 0 ≤ x.exponent
  · exact spells_whole hx he
  · by_cases hpoint : 0 < (naturalText x.coefficient).length + x.exponent
    · exact spells_split hx (not_le.1 he) hpoint
    · exact spells_fraction (not_le.1 he) (not_lt.1 hpoint)

/-- With an exponent. -/
lemma spells_scientific (x : Decimal) :
    ∃ numeral, Spells (x.scientific ['+']) numeral ∧ numeral.value = x.value ∧
      numeral.exponent = x.exponent := by
  have hdigits := digits_naturalText x.coefficient
  have hcoefficient := digitsValue_naturalText x.coefficient
  obtain ⟨c, fraction, hne⟩ := List.exists_cons_of_ne_nil (naturalText_ne_nil x.coefficient)
  rw [hne] at hdigits hcoefficient
  have hboth : Digits ([c] ++ fraction) := hdigits
  have hfirst := hboth.of_append_left
  have hrest := hboth.of_append_right
  have hpower := Numeral.scanPower_integerText (.inr rfl : ['+'] = [] ∨ ['+'] = ['+'])
    (fraction.length + x.exponent)
  have hafter := Numeral.noDigit_cons (c := 'e') rfl
    ((if 0 ≤ fraction.length + x.exponent then ['+'] else []) ++
      integerText (fraction.length + x.exponent))
  have htext : x.scientific ['+'] = [c] ++ (if fraction.isEmpty then [] else '.' :: fraction) ++
      'e' :: ((if 0 ≤ fraction.length + x.exponent then ['+'] else []) ++
        integerText (fraction.length + x.exponent)) := by
    have hlength : (((c :: fraction).length : ℕ) : ℤ) + x.exponent - 1 =
        fraction.length + x.exponent := by
      rw [List.length_cons]
      omega
    simp only [scientific, hne, hlength]
    rfl
  -- A single digit is written without a point.
  rw [htext]
  cases fraction with
  | nil =>
    have hscan := Numeral.scan_whole hfirst (by simp) hafter (by simp) hpower
    refine ⟨_, ⟨hscan, rfl, by simp, by simp, by simp, .inr rfl⟩, ?_, ?_⟩
    · rw [Numeral.value, Numeral.exponent_of_power, Numeral.coefficient, value]
      simp [hcoefficient]
    · rw [Numeral.exponent_of_power]
      simp
  | cons d fraction =>
    have hscan := Numeral.scan_point hfirst (by simp) hrest hafter hpower
    refine ⟨_, ⟨hscan, rfl, by simp, by simp, by simp, .inr rfl⟩, ?_, ?_⟩
    · rw [Numeral.value, Numeral.exponent_of_power, Numeral.coefficient, value, Option.getD_some,
        List.singleton_append, hcoefficient, add_sub_cancel_left]
    · rw [Numeral.exponent_of_power, Option.getD_some, add_sub_cancel_left]

end Decimal

end Atelier

/-
Numbers as JSON text.

A number that is written is always read again (`Json.Number.read?_text`), integers as themselves
and a double as one that is near it: reading rounds more than once.  The digits of the double
denote no other, and so its text does (`Json.Number.text_inj`).  `Json.numberChars_of_read?` says
which characters stand in the text of a number.
-/
import Atelier.Json.Reader
import Atelier.Proofs.Json.Scaling

namespace Atelier

namespace Json

lemma isNumberChar_of_isDigit {c : Char} (h : c.isDigit = true) : isNumberChar c = true := by
  simp [isNumberChar, h]

end Json

namespace Numeral

open Json (isNumberChar isNumberChar_of_isDigit)

lemma eq_of_mem_splitSign {text : List Char} {c : Char} (h : c ∈ (splitSign text).1) :
    c = '+' ∨ c = '-' := by
  unfold splitSign at h
  split at h
  · exact .inl (Option.some.inj h).symm
  · exact .inr (Option.some.inj h).symm
  · cases h

lemma isNumberChar_of_mem_splitSign {text : List Char} {c : Char}
    (h : c ∈ (splitSign text).1) : isNumberChar c = true := by
  rcases eq_of_mem_splitSign h with rfl | rfl <;> decide

lemma isNumberChar_of_scanPower {text : List Char} {power : Option (Bool × List Char)}
    (h : scanPower text = some power) : ∀ c ∈ text, isNumberChar c = true := by
  cases text with
  | nil => simp
  | cons e rest =>
    simp only [scanPower, Option.ite_none_right_eq_some, Bool.and_eq_true, Bool.or_eq_true,
      decide_eq_true_eq, List.all_eq_true] at h
    obtain ⟨⟨⟨he, -⟩, hdigits⟩, -⟩ := h
    intro c hc
    rw [← splitSign_append rest] at hc
    simp only [List.mem_cons, List.mem_append, Option.mem_toList] at hc
    rcases hc with rfl | hsign | hdigit
    · rcases he with rfl | rfl <;> decide
    · exact isNumberChar_of_mem_splitSign hsign
    · exact isNumberChar_of_isDigit (hdigits c hdigit)

/-- A run of digits and what follows it, if that consists of characters of numbers. -/
lemma isNumberChar_of_dropWhile {text : List Char}
    (h : ∀ c ∈ text.dropWhile Char.isDigit, isNumberChar c = true) :
    ∀ c ∈ text, isNumberChar c = true := by
  intro c hc
  rw [← List.takeWhile_append_dropWhile (p := Char.isDigit) (l := text), List.mem_append] at hc
  rcases hc with hdigit | hafter
  · exact isNumberChar_of_isDigit (List.mem_takeWhile_imp hdigit)
  · exact h c hafter

/-- A numeral consists of characters of numbers. -/
lemma isNumberChar_of_scan {text : List Char} {numeral : Numeral}
    (h : scan text = some numeral) : ∀ c ∈ text, isNumberChar c = true := by
  have hchars (hafter : ∀ c ∈ (splitSign text).2.dropWhile Char.isDigit, isNumberChar c = true) :
      ∀ c ∈ text, isNumberChar c = true := by
    intro c hc
    rw [← splitSign_append text, List.mem_append, Option.mem_toList] at hc
    rcases hc with hsign | hrest
    · exact isNumberChar_of_mem_splitSign hsign
    · exact isNumberChar_of_dropWhile hafter c hrest
  simp only [scan, Option.bind_eq_bind] at h
  split at h
  case h_1 rest hpoint =>
    obtain ⟨power, hpower, -⟩ := Option.bind_eq_some_iff.1 h
    refine hchars ?_
    rw [hpoint]
    intro c hc
    rcases List.mem_cons.1 hc with rfl | hrest
    · decide
    · exact isNumberChar_of_dropWhile (isNumberChar_of_scanPower hpower) c hrest
  case h_2 =>
    obtain ⟨power, hpower, -⟩ := Option.bind_eq_some_iff.1 h
    exact hchars (isNumberChar_of_scanPower hpower)

end Numeral

namespace Json

/-- Only characters of numbers stand in a number, a digit or a minus sign first. -/
lemma numberChars_of_read? {text : List Char} {v : Json} (h : Number.read? text = some v) :
    ∃ c rest, text = c :: rest ∧ (c.isDigit || c = '-') = true ∧
      ∀ d ∈ rest, isNumberChar d = true := by
  simp only [Number.read?, Option.bind_eq_bind, Option.bind_eq_some_iff,
    Option.ite_none_left_eq_some, Bool.or_eq_true, decide_eq_true_eq, not_or] at h
  obtain ⟨numeral, hscan, ⟨⟨⟨hplus, hwhole⟩, -⟩, -⟩, -⟩ := h
  obtain ⟨hsign, hdigits⟩ := Numeral.sign_and_whole_of_scan hscan
  have hchars := Numeral.isNumberChar_of_scan hscan
  have htext := Numeral.splitSign_append text
  rw [← hsign] at htext
  have hnext : ∀ c rest, text = c :: rest → ∀ d ∈ rest, isNumberChar d = true := by
    rintro c rest rfl d hd
    exact hchars d (List.mem_cons_of_mem c hd)
  cases hnumeral : numeral.sign with
  | some sign =>
    have htext' : text = sign :: (Numeral.splitSign text).2 := by
      rw [hnumeral] at htext
      exact htext.symm
    have hminus : sign = '-' := by
      rcases Numeral.eq_of_mem_splitSign (hsign ▸ hnumeral) with rfl | rfl
      · exact absurd hnumeral hplus
      · rfl
    exact ⟨sign, _, htext', by simp [hminus], hnext _ _ htext'⟩
  | none =>
    have htext' : text = (Numeral.splitSign text).2 := by
      rw [hnumeral] at htext
      exact htext.symm
    rw [hdigits, ← htext'] at hwhole
    cases text with
    | nil => simp at hwhole
    | cons c rest =>
      have hc : c.isDigit = true := by
        by_contra hc
        simp [hc] at hwhole
      exact ⟨c, rest, rfl, by simp [hc], hnext c rest rfl⟩

/-! ## Numbers that are written -/

namespace Number

open Numeral (Spells)

/-- The numbers that JSON has. -/
def Valid : Number → Prop
  | .natural n => n < UInt64.size
  | .negative n => 0 < n ∧ n ≤ UInt64.size / 2
  | .float x => x.isFinite = true

/-- The text of a number, with its sign, is read as what the numeral denotes. -/
lemma read?_of_spells {text : List Char} {numeral : Numeral} (h : Spells text numeral)
    (negative : Bool) :
    Number.read? (if negative then '-' :: text else text) =
      some (Number.ofNumeral (numeral.withSign negative)) := by
  have hwhole := h.whole
  have hleading := h.leading
  have hfraction := h.fraction
  have hsign : (if negative then some '-' else none) ≠ some '+' := by
    cases negative <;> decide
  rw [Number.read?, Numeral.scan_withSign h.scan h.sign]
  simp [Numeral.withSign, hsign, hwhole, hfraction]
  exact hleading

/-- What a numeral with a point or a power of ten denotes. -/
lemma ofNumeral_of_marked {numeral : Numeral}
    (h : numeral.fraction.isSome = true ∨ numeral.power.isSome = true)
    (hfinite : (double numeral).isFinite = true) :
    Number.ofNumeral numeral = .num (.float (double numeral)) := by
  have hplain : (numeral.fraction.isNone && numeral.power.isNone) = false := by
    rcases h with h | h
    · simp [Option.isNone_eq_false_iff.2 h]
    · simp [Option.isNone_eq_false_iff.2 h]
  simp [Number.ofNumeral, hplain, hfinite]

/-- A double is written as a numeral that denotes no other double, and a finite one is read for
the numeral.  It has no minus sign that the double has not. -/
structure Written (x : Float) (numeral : Numeral) : Prop where
  scan : Numeral.scan (Number.float x).text = some numeral
  read : Number.read? (Number.float x).text = some (.num (.float (double numeral)))
  nearest : numeral.toFloat = x
  finite : (double numeral).isFinite = true
  nonneg : 0 ≤ x → 0 ≤ double numeral

/-- A double is written as a numeral if its magnitude and its sign are. -/
lemma Written.of_spells {x : Float} {numeral : Numeral}
    (htext : Spells (numberStyle.magnitude x) numeral)
    (hnearest : (numeral.withSign (signBit x)).toFloat = x)
    (hdigits : numeral.coefficient < UInt64.size)
    (hfinite : (scaled numeral.coefficient numeral.exponent).isFinite = true)
    (hnonneg : 0 ≤ x → 0 ≤ double (numeral.withSign (signBit x))) :
    Written x (numeral.withSign (signBit x)) := by
  have hsigned : (double (numeral.withSign (signBit x))).isFinite = true := by
    have hdouble : double (numeral.withSign (signBit x)) = _ := double_eq hdigits
    rw [hdouble]
    split
    · exact isFinite_neg hfinite
    · exact hfinite
  refine ⟨Numeral.scan_withSign htext.scan htext.sign _, ?_, hnearest, hsigned, hnonneg⟩
  rw [Number.text, NumberStyle.finite, read?_of_spells htext (signBit x)]
  exact congrArg some (ofNumeral_of_marked htext.marked hsigned)

lemma spells_zero : Spells "0.0".toList ⟨none, ['0'], some ['0'], none⟩ := by
  constructor <;> decide

lemma exists_written_of_zero (s : Float.Model.UnpackedFloat.Sign) :
    ∃ numeral, Written (.ofModel (.pack (.zero s))) numeral := by
  have htext : numberStyle.magnitude (.ofModel (.pack (.zero s))) = "0.0".toList := by
    cases s <;> decide +kernel
  refine ⟨_, .of_spells (htext ▸ spells_zero) ?_ (by decide) (by decide +kernel) fun _ => ?_⟩
  · cases s <;> decide +kernel
  · cases s <;> decide +kernel

/-- Numerals of the same number over the same power of ten have the same digits. -/
lemma coefficient_eq {numeral : Numeral} {x : Decimal} (hvalue : numeral.value = x.value)
    (hexponent : numeral.exponent = x.exponent) : numeral.coefficient = x.coefficient := by
  have hpos : (0 : ℚ) < 10 ^ x.exponent := zpow_pos (by norm_num) _
  rw [Numeral.value, Decimal.value, hexponent] at hvalue
  exact_mod_cast mul_right_cancel₀ hpos.ne' hvalue

/-- Behind a whole number without a power of ten stands one zero.  There are seventeen digits at
most. -/
lemma coefficient_le_of_whole {numeral : Numeral} {x : Decimal} (hvalue : numeral.value = x.value)
    (hexponent : numeral.exponent = -1) (hwhole : 0 ≤ x.exponent)
    (hpower : (naturalText x.coefficient).length + x.exponent - 1 ≤ 15) :
    numeral.coefficient ≤ 10 ^ 17 := by
  obtain ⟨c, e⟩ := x
  obtain ⟨k, rfl⟩ := Int.eq_ofNat_of_zero_le hwhole
  have hcoefficient : numeral.coefficient = c * 10 ^ (k + 1) := by
    have hten : ((10 : ℚ) ^ (-1 : ℤ)) * 10 = 1 := by norm_num
    rw [Numeral.value, Decimal.value, hexponent, zpow_natCast] at hvalue
    have hscaled : (numeral.coefficient : ℚ) = c * 10 ^ (k + 1) := by
      calc (numeral.coefficient : ℚ) = numeral.coefficient * 10 ^ (-1 : ℤ) * 10 := by
            rw [mul_assoc, hten, mul_one]
        _ = c * 10 ^ (k + 1) := by rw [hvalue, pow_succ, mul_assoc]
    exact_mod_cast hscaled
  have hlength : 0 < (naturalText c).length := Nat.length_toDigits_pos
  have hdigits : c < 10 ^ (naturalText c).length :=
    (Nat.length_toDigits_le_iff (by norm_num) hlength).1 le_rfl
  calc numeral.coefficient = c * 10 ^ (k + 1) := hcoefficient
    _ ≤ 10 ^ (naturalText c).length * 10 ^ (k + 1) := Nat.mul_le_mul_right _ hdigits.le
    _ = 10 ^ ((naturalText c).length + (k + 1)) := (pow_add _ _ _).symm
    _ ≤ 10 ^ 17 := Nat.pow_le_pow_right (by norm_num) (by simp only at hpower; omega)

/-- The digits of a double, seventeen at most, over the power of ten of the last digit or over a
tenth. -/
lemma exists_spells_magnitude {m : ℕ} {e : ℤ} (h : Canonical m e)
    (s : Float.Model.UnpackedFloat.Sign) :
    ∃ numeral, Spells (numberStyle.magnitude (.ofModel (.pack (.finite s m e h.pos)))) numeral ∧
      numeral.value = (Decimal.shortest numberStyle.tie ⟨m, e⟩).value ∧
      numeral.coefficient ≤ 10 ^ 17 ∧
      (numeral.exponent = -1 ∨
        numeral.exponent = (Decimal.shortest numberStyle.tie ⟨m, e⟩).exponent) := by
  have hpos := Decimal.coefficient_shortest_pos h numberStyle.tie
  have hle := Decimal.coefficient_shortest_le h.pos e numberStyle.tie
  unfold NumberStyle.magnitude
  rw [ofFloat_of_finite h]
  generalize Decimal.shortest numberStyle.tie ⟨m, e⟩ = x at *
  simp only
  split
  · rename_i hpositional
    obtain ⟨numeral, htext, hvalue, hexponent⟩ := Decimal.spells_positional hpos
    refine ⟨numeral, htext, hvalue, ?_⟩
    rcases lt_or_ge x.exponent 0 with hneg | hwhole
    · rw [min_eq_left (by omega)] at hexponent
      exact ⟨(coefficient_eq hvalue hexponent).trans_le hle, .inr hexponent⟩
    · rw [min_eq_right (by omega)] at hexponent
      simp only [numberStyle, Bool.and_eq_true, decide_eq_true_eq] at hpositional
      exact ⟨coefficient_le_of_whole hvalue hexponent hwhole hpositional.2, .inl hexponent⟩
  · obtain ⟨numeral, htext, hvalue, hexponent⟩ := Decimal.spells_scientific x
    exact ⟨numeral, htext, hvalue, (coefficient_eq hvalue hexponent).trans_le hle, .inr hexponent⟩

/-- The digits of the largest double are scaled to it. -/
lemma isFinite_scaled_largest :
    (scaled (Decimal.shortest numberStyle.tie ⟨2 ^ 53 - 1, 971⟩).coefficient
      (Decimal.shortest numberStyle.tie ⟨2 ^ 53 - 1, 971⟩).exponent).isFinite = true := by
  decide +kernel

/-- What is not negative is written without a minus sign. -/
lemma signBit_of_nonneg {m : ℕ} {e : ℤ} (h : Canonical m e) {s : Float.Model.UnpackedFloat.Sign}
    (hnonneg : 0 ≤ Float.ofModel (.pack (.finite s m e h.pos))) :
    signBit (.ofModel (.pack (.finite s m e h.pos))) = false := by
  rw [le_iff isFinite_zero (isFinite_of_finite h s), exact_zero, exact, unpack_pack h] at hnonneg
  rw [signBit_of_finite h]
  cases s with
  | negative =>
    rw [value_negative] at hnonneg
    exact absurd hnonneg (not_le.2 (neg_neg_of_pos h.number_pos))
  | positive => rfl

/-- And what is written without one is not read as a negative number. -/
lemma double_nonneg {numeral : Numeral} (hdigits : numeral.coefficient < UInt64.size)
    (hfinite : (scaled numeral.coefficient numeral.exponent).isFinite = true) :
    0 ≤ double (numeral.withSign false) := by
  have hdouble : double (numeral.withSign false) = scaled numeral.coefficient numeral.exponent :=
    double_eq hdigits
  rw [hdouble, le_iff isFinite_zero hfinite, exact_zero]
  exact exact_scaled_nonneg hdigits hfinite

lemma exists_written_of_finite {m : ℕ} {e : ℤ} (h : Canonical m e)
    (s : Float.Model.UnpackedFloat.Sign) :
    ∃ numeral, Written (.ofModel (.pack (.finite s m e h.pos))) numeral := by
  obtain ⟨numeral, htext, hvalue, hle, hexponent⟩ := exists_spells_magnitude h s
  have hround := Decimal.roundsTo_shortest h numberStyle.tie
  rw [← hvalue] at hround
  have hnearest := Numeral.toFloat_of_roundsTo h htext.sign hround s
  have hdigits : numeral.coefficient < UInt64.size := hle.trans_lt (by decide)
  have hfinite : (scaled numeral.coefficient numeral.exponent).isFinite = true := by
    rcases hexponent with hexponent | hexponent
    · rw [hexponent]
      exact isFinite_scaled_negSucc hdigits 0
    by_cases hlargest : m = 2 ^ 53 - 1 ∧ e = 971
    · obtain ⟨rfl, rfl⟩ := hlargest
      rw [coefficient_eq hvalue hexponent, hexponent]
      exact isFinite_scaled_largest
    · have hpos : 0 < numeral.coefficient := by
        rw [coefficient_eq hvalue hexponent]
        exact Decimal.coefficient_shortest_pos h numberStyle.tie
      exact isFinite_scaled h hlargest hpos hle hround
  refine ⟨_, .of_spells htext hnearest hdigits hfinite fun hnonneg => ?_⟩
  rw [signBit_of_nonneg h hnonneg]
  exact double_nonneg hdigits hfinite

/-- Every finite double is written as a numeral. -/
lemma exists_written {x : Float} (hx : x.isFinite = true) : ∃ numeral, Written x numeral := by
  rcases exists_of_isFinite hx with ⟨s, rfl⟩ | ⟨s, m, e, h, rfl⟩
  · exact exists_written_of_zero s
  · exact exists_written_of_finite h s

/-- Different doubles are written differently. -/
lemma float_text_inj {x y : Float} (hx : x.isFinite = true) (hy : y.isFinite = true)
    (h : (Number.float x).text = (Number.float y).text) : x = y := by
  obtain ⟨numeral, hnumeral⟩ := exists_written hx
  obtain ⟨numeral', hnumeral'⟩ := exists_written hy
  have hscan := hnumeral.scan
  rw [h, hnumeral'.scan, Option.some_inj] at hscan
  rw [← hnumeral.nearest, ← hscan, hnumeral'.nearest]

/-- The digits of a natural number, behind a minus sign or not, have neither a point nor a power
of ten. -/
lemma read?_naturalText (n : ℕ) (negative : Bool) :
    Number.read? (if negative then '-' :: naturalText n else naturalText n) =
      some (Number.ofNumeral
        ⟨if negative then some '-' else none, naturalText n, none, none⟩) := by
  have hne := naturalText_ne_nil n
  have hscan := Numeral.scan_whole (digits_naturalText n) hne Numeral.noDigit_nil (by simp) rfl
  rw [List.append_nil] at hscan
  have hleading : 1 < (naturalText n).length → (naturalText n).head? ≠ some '0' := by
    -- Zero itself has one digit.
    intro hlength
    refine head?_naturalText (Nat.pos_of_ne_zero ?_)
    rintro rfl
    exact absurd hlength (by decide)
  cases negative with
  | true =>
    have hminus := Numeral.scan_minus hscan rfl
    rw [if_pos rfl, Number.read?, hminus]
    simp [hne]
    exact hleading
  | false =>
    rw [if_neg Bool.false_ne_true, Number.read?, hscan]
    simp [hne]
    exact hleading

/-! ## Reading again what was written -/

/-- The double that is read for the text of a finite double. -/
def rereadFloat (x : Float) : Float :=
  if x.isFinite then
    match Number.read? (Number.float x).text with
    | some (.num (.float y)) => y
    | _ => x
  else x

/-- The number that is read for the text of a number. -/
def reread : Number → Number
  | float x => float (rereadFloat x)
  | n => n

lemma read?_float {x : Float} (hx : x.isFinite = true) :
    Number.read? (Number.float x).text = some (.num (.float (rereadFloat x))) ∧
      (rereadFloat x).isFinite = true := by
  obtain ⟨numeral, hnumeral⟩ := exists_written hx
  rw [rereadFloat, if_pos hx, hnumeral.read]
  exact ⟨rfl, hnumeral.finite⟩

lemma isFinite_rereadFloat (x : Float) : (rereadFloat x).isFinite = x.isFinite := by
  by_cases hx : x.isFinite = true
  · rw [hx, (read?_float hx).2]
  · rw [rereadFloat, if_neg hx]

/-- The sign of a double is read again. -/
lemma rereadFloat_nonneg {x : Float} (h : 0 ≤ x) : 0 ≤ rereadFloat x := by
  by_cases hx : x.isFinite = true
  · obtain ⟨numeral, hnumeral⟩ := exists_written hx
    rw [rereadFloat, if_pos hx, hnumeral.read]
    exact hnumeral.nonneg h
  · rwa [rereadFloat, if_neg hx]

lemma Valid.reread {n : Number} (h : n.Valid) : n.reread.Valid := by
  cases n with
  | float x => exact (isFinite_rereadFloat x).trans h
  | _ => exact h

/-- A number that is written is read again. -/
theorem read?_text {n : Number} (h : n.Valid) : Number.read? n.text = some (.num n.reread) := by
  cases n with
  | natural n =>
    have hread := read?_naturalText n false
    have hlt : n < UInt64.size := h
    rw [if_neg Bool.false_ne_true] at hread
    rw [Number.text, hread]
    simp [Number.ofNumeral, Numeral.negative, reread, hlt]
  | negative n =>
    have hread := read?_naturalText n true
    obtain ⟨hpos, hle⟩ : 0 < n ∧ n ≤ UInt64.size / 2 := h
    rw [if_pos rfl] at hread
    rw [Number.text, hread]
    simp [Number.ofNumeral, Numeral.negative, reread, hpos.ne', hle]
  | float x => exact (read?_float h).1

/-- Different numbers are written differently. -/
theorem text_inj {n n' : Number} (hn : n.Valid) (hn' : n'.Valid) (h : n.text = n'.text) :
    n = n' := by
  have hread := read?_text hn
  rw [h, read?_text hn', Option.some_inj, Json.num.injEq] at hread
  cases n with
  | natural k =>
    cases n' with
    | natural k' => exact hread.symm
    | _ => cases hread
  | negative k =>
    cases n' with
    | negative k' => exact hread.symm
    | _ => cases hread
  | float x =>
    cases n' with
    | float y => rw [float_text_inj hn hn' h]
    | _ => cases hread

/-- Not every double is read for its text. -/
lemma rereadFloat_ne : rereadFloat 51.248178375505404 ≠ 51.248178375505404 := by decide +kernel

-- The quotient of the digits and the power of ten is rounded to the next double.
example : rereadFloat 51.248178375505404 = 51.24817837550541 := by decide +kernel

end Number

end Json

end Atelier

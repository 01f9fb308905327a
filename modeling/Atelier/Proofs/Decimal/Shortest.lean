/-
The shortest digits of a double read back to it.

A candidate is chosen inside the interval of the numbers nearest to the double, so that it is
enough that there is one (`exists_candidate`).  On the grid of seventeen digits a step is less
than twice the distance to the nearer end of the interval, and so one of the two neighbours of
the double on the grid lies inside.
-/
import Atelier.Decimal.Shortest
import Atelier.Proofs.Decimal.Rounding

namespace Atelier

namespace Decimal

/-- The number that a decimal denotes. -/
def value (x : Decimal) : ℚ :=
  x.coefficient * 10 ^ x.exponent

lemma tenTo_eq (n : ℕ) : tenTo n = 10 ^ n := rfl

/-- Trailing zeros in the exponent do not change the number. -/
lemma value_trim (n : ℕ) (x : Decimal) : (trim n x).value = x.value := by
  induction n generalizing x with
  | zero => rfl
  | succ n ih =>
    unfold trim
    split
    · rename_i hzero
      obtain ⟨c, hc⟩ := Nat.dvd_of_mod_eq_zero hzero.2
      rw [ih, value, value, hc, Nat.mul_div_cancel_left c (by norm_num),
        zpow_add_one₀ (by norm_num)]
      push_cast
      ring
    · rfl

lemma coefficient_trim_le (n : ℕ) (x : Decimal) : (trim n x).coefficient ≤ x.coefficient := by
  induction n generalizing x with
  | zero => exact le_rfl
  | succ n ih =>
    unfold trim
    split
    · exact (ih _).trans (Nat.div_le_self _ _)
    · exact le_rfl

/-! ## The magnitude -/

lemma digitCount_pos {n : ℕ} (hn : 0 < n) : 0 < digitCount n := by
  unfold digitCount
  rw [if_neg hn.ne']
  omega

lemma lt_ten_pow_digitCount (n : ℕ) : n < 10 ^ digitCount n := by
  induction n using Nat.strongRecOn with
  | ind n ih =>
    unfold digitCount
    split
    · subst n
      norm_num
    · have hrest := ih (n / 10) (by omega)
      rw [Nat.pow_succ]
      omega

lemma ten_pow_digitCount_le {n : ℕ} (hn : 0 < n) : 10 ^ (digitCount n - 1) ≤ n := by
  induction n using Nat.strongRecOn with
  | ind n ih =>
    unfold digitCount
    rw [if_neg hn.ne', Nat.add_sub_cancel]
    by_cases hrest : n / 10 = 0
    · rw [hrest, digitCount, if_pos rfl, Nat.pow_zero]
      exact hn
    · have hsmaller := ih (n / 10) (by omega) (by omega)
      have hpos := digitCount_pos (Nat.pos_of_ne_zero hrest)
      obtain ⟨k, hk⟩ : ∃ k, digitCount (n / 10) = k + 1 := ⟨_, (Nat.sub_add_cancel hpos).symm⟩
      rw [hk, Nat.add_sub_cancel] at hsmaller
      rw [hk, Nat.pow_succ]
      omega

/-- The leading digit of a fraction stands no higher than its magnitude says. -/
lemma ten_zpow_magnitude_le {n d : ℕ} (hn : 0 < n) (hd : 0 < d) :
    (10 : ℚ) ^ (magnitude n d - 1) ≤ n / d := by
  have hd' : (0 : ℚ) < d := by exact_mod_cast hd
  unfold magnitude
  split
  · rename_i hle
    have hquotient : 0 < n / d := Nat.div_pos hle hd
    have hpos := digitCount_pos hquotient
    have hexponent : (digitCount (n / d) : ℤ) - 1 = (digitCount (n / d) - 1 : ℕ) := by omega
    rw [hexponent, zpow_natCast]
    calc (10 : ℚ) ^ (digitCount (n / d) - 1) ≤ (n / d : ℕ) := by
          exact_mod_cast ten_pow_digitCount_le hquotient
      _ ≤ n / d := Nat.cast_div_le
  · have hdigits := lt_ten_pow_digitCount ((d - 1) / n)
    generalize digitCount ((d - 1) / n) = j at *
    have hle : d ≤ n * 10 ^ j := by
      have hlt := (Nat.div_lt_iff_lt_mul hn).1 hdigits
      rw [Nat.mul_comm] at hlt
      omega
    have hle' : (d : ℚ) ≤ n * 10 ^ j := by exact_mod_cast hle
    have hexponent : (1 - (j : ℤ)) - 1 = -(j : ℤ) := by ring
    rw [hexponent, zpow_neg, zpow_natCast, inv_eq_one_div, div_le_div_iff₀ (by positivity) hd']
    linarith

/-- The leading digit of a fraction stands no lower than its magnitude says. -/
lemma lt_ten_zpow_magnitude {n d : ℕ} (hn : 0 < n) (hd : 0 < d) :
    (n : ℚ) / d < 10 ^ magnitude n d := by
  have hd' : (0 : ℚ) < d := by exact_mod_cast hd
  unfold magnitude
  split
  · have hdigits := lt_ten_pow_digitCount (n / d)
    rw [zpow_natCast, div_lt_iff₀ hd']
    exact_mod_cast (Nat.div_lt_iff_lt_mul hd).1 hdigits
  · rename_i hlt
    have hquotient : 0 < (d - 1) / n := Nat.div_pos (by omega) hn
    have hdigits := ten_pow_digitCount_le hquotient
    have hpos := digitCount_pos hquotient
    generalize digitCount ((d - 1) / n) = j at *
    obtain ⟨j, rfl⟩ : ∃ i, j = i + 1 := ⟨j - 1, by omega⟩
    have hlt' : 10 ^ j * n < d := by
      have hle := (Nat.le_div_iff_mul_le hn).1 hdigits
      rw [Nat.add_sub_cancel] at hle
      omega
    have hexponent : 1 - ((j + 1 : ℕ) : ℤ) = -(j : ℤ) := by
      push_cast
      ring
    rw [hexponent, zpow_neg, zpow_natCast, inv_eq_one_div, div_lt_div_iff₀ hd' (by positivity)]
    have hlt'' : (10 : ℚ) ^ j * n < d := by exact_mod_cast hlt'
    linarith

/-! ## The numbers that read back -/

namespace Interval

/-- A number inside the interval. -/
def Contains (i : Interval) (r : ℚ) : Prop :=
  if i.closed then (i.low : ℚ) / i.denominator ≤ r ∧ r ≤ i.high / i.denominator
  else (i.low : ℚ) / i.denominator < r ∧ r < i.high / i.denominator

/-- Numbers over the same denominator, on a grid of powers of ten. -/
lemma scaled_eq {n d : ℕ} (hd : 0 < d) (g : ℤ) (c : ℕ) :
    ((n * tenTo (-g).toNat : ℕ) : ℚ) = n / d * (d * 10 ^ (-g).toNat) ∧
      ((c * (d * tenTo g.toNat) : ℕ) : ℚ) = c * 10 ^ g * (d * 10 ^ (-g).toNat) := by
  have hd' : (d : ℚ) ≠ 0 := by exact_mod_cast hd.ne'
  rw [tenTo_eq, tenTo_eq]
  constructor
  · push_cast
    field_simp
  · have hpower : (10 : ℚ) ^ g.toNat = 10 ^ g * 10 ^ (-g).toNat := by
      rw [← zpow_natCast, ← zpow_natCast, ← zpow_add₀ (by norm_num)]
      congr 1
      omega
    push_cast
    rw [hpower]
    ring

lemma inside_iff {i : Interval} (hd : 0 < i.denominator) (g : ℤ) (c : ℕ) :
    i.inside g c = true ↔ i.Contains (c * 10 ^ g) := by
  have hd' : (0 : ℚ) < i.denominator := by exact_mod_cast hd
  have hpos : (0 : ℚ) < i.denominator * 10 ^ (-g).toNat := by positivity
  obtain ⟨hlow, hc⟩ := scaled_eq (n := i.low) hd g c
  have hhigh := (scaled_eq (n := i.high) hd g c).1
  unfold inside Contains
  split <;> simp only [Bool.and_eq_true, decide_eq_true_eq]
  · rw [← Nat.cast_le (α := ℚ), ← Nat.cast_le (α := ℚ), hlow, hhigh, hc,
      mul_le_mul_iff_left₀ hpos, mul_le_mul_iff_left₀ hpos]
  · rw [← Nat.cast_lt (α := ℚ), ← Nat.cast_lt (α := ℚ), hlow, hhigh, hc,
      mul_lt_mul_iff_left₀ hpos, mul_lt_mul_iff_left₀ hpos]

/-- A candidate lies inside the interval. -/
lemma inside_of_candidate? {i : Interval} {tie : Tie} {g : ℤ} {c : ℕ}
    (h : i.candidate? tie g = some c) : i.inside g c = true := by
  unfold candidate? at h
  simp only at h
  split at h
  · cases h
  · cases h
    assumption
  · cases h
    assumption
  · rename_i hfloor hnext
    split at h
    · cases h
      exact hfloor
    · cases h
      exact hnext
    · cases tie <;> cases h
      · exact hnext
      · split <;> assumption

/-- A candidate is at most the upper neighbour of the value on the grid. -/
lemma le_of_candidate? {i : Interval} {tie : Tie} {g : ℤ} {c : ℕ}
    (h : i.candidate? tie g = some c) :
    c ≤ i.value * tenTo (-g).toNat / (i.denominator * tenTo g.toNat) + 1 := by
  unfold candidate? at h
  simp only [onGrid] at h
  split at h
  · cases h
  · cases h
    exact Nat.le_succ _
  · cases h
    exact le_rfl
  · split at h
    · cases h
      exact Nat.le_succ _
    · cases h
      exact le_rfl
    · cases tie <;> cases h
      · exact le_rfl
      · exact (ite_le_sup _ _ _).trans (sup_le (Nat.le_succ _) le_rfl)

/-- A candidate has no more digits than fit between the grid and a power of ten above the
value. -/
lemma candidate?_le {i : Interval} (hd : 0 < i.denominator) {tie : Tie} {g : ℤ} {c n : ℕ}
    (h : i.candidate? tie g = some c) (hlt : (i.value : ℚ) / i.denominator < 10 ^ (g + n)) :
    c ≤ 10 ^ n := by
  have hd' : (0 : ℚ) < i.denominator := by exact_mod_cast hd
  have hpos : (0 : ℚ) < i.denominator * 10 ^ (-g).toNat := by positivity
  have hstep : 0 < i.denominator * tenTo g.toNat := by
    rw [tenTo_eq]
    positivity
  obtain ⟨hvalue, hbound⟩ := scaled_eq (n := i.value) hd g (10 ^ n)
  have hfew : i.value * tenTo (-g).toNat / (i.denominator * tenTo g.toNat) < 10 ^ n := by
    rw [Nat.div_lt_iff_lt_mul hstep, ← Nat.cast_lt (α := ℚ), hvalue, hbound,
      mul_lt_mul_iff_left₀ hpos]
    rw [zpow_add₀ (by norm_num), zpow_natCast] at hlt
    push_cast
    linarith
  have hle := le_of_candidate? h
  omega

/-- Without a candidate neither neighbour on the grid lies inside the interval. -/
lemma not_inside_of_candidate? {i : Interval} {tie : Tie} {g : ℤ} {c : ℕ}
    (h : i.candidate? tie g = none)
    (hc : i.value * tenTo (-g).toNat / (i.denominator * tenTo g.toNat) = c) :
    i.inside g c = false ∧ i.inside g (c + 1) = false := by
  subst hc
  unfold candidate? at h
  simp only [onGrid] at h
  split at h
  · constructor <;> assumption
  · cases h
  · cases h
  · split at h
    · cases h
    · cases h
    · cases tie <;> cases h

/-- The value lies between its two neighbours on the grid. -/
lemma exists_neighbours {i : Interval} (hd : 0 < i.denominator) {tie : Tie} {g : ℤ}
    (h : i.candidate? tie g = none) :
    ∃ c : ℕ, (c : ℚ) * 10 ^ g ≤ i.value / i.denominator ∧
      (i.value : ℚ) / i.denominator < (c + 1 : ℕ) * 10 ^ g ∧
      ¬ i.Contains (c * 10 ^ g) ∧ ¬ i.Contains ((c + 1 : ℕ) * 10 ^ g) := by
  have hd' : (0 : ℚ) < i.denominator := by exact_mod_cast hd
  have hpos : (0 : ℚ) < i.denominator * 10 ^ (-g).toNat := by positivity
  have hstep : 0 < i.denominator * tenTo g.toNat := by
    rw [tenTo_eq]
    positivity
  obtain ⟨c, hc⟩ : ∃ c, i.value * tenTo (-g).toNat / (i.denominator * tenTo g.toNat) = c :=
    ⟨_, rfl⟩
  have hfloor : c * (i.denominator * tenTo g.toNat) ≤ i.value * tenTo (-g).toNat :=
    (Nat.le_div_iff_mul_le hstep).1 hc.ge
  have hnext : i.value * tenTo (-g).toNat < (c + 1) * (i.denominator * tenTo g.toNat) :=
    (Nat.div_lt_iff_lt_mul hstep).1 (by omega)
  refine ⟨c, ?_, ?_, ?_⟩
  · rw [← mul_le_mul_iff_left₀ hpos, ← (scaled_eq hd g c).1, ← (scaled_eq (n := i.value) hd g c).2]
    exact_mod_cast hfloor
  · rw [← mul_lt_mul_iff_left₀ hpos, ← (scaled_eq hd g c).1,
      ← (scaled_eq (n := i.value) hd g (c + 1)).2]
    exact_mod_cast hnext
  · rw [← inside_iff hd, ← inside_iff hd, Bool.not_eq_true, Bool.not_eq_true]
    exact not_inside_of_candidate? h hc

/-! ## The interval of a double -/

section

variable {m : ℕ} {e : ℤ}

lemma denominator_pos (b : Binary) : 0 < (ofBinary b).denominator := by
  simp only [ofBinary, Nat.one_shiftLeft]
  positivity

/-- Numbers in quarters of the last place of a double. -/
lemma quarters_eq (n : ℕ) (e : ℤ) :
    ((n <<< (e - 2).toNat : ℕ) : ℚ) / (1 <<< (-(e - 2)).toNat : ℕ) = n / 4 * 2 ^ e := by
  have hpower : (2 : ℚ) ^ (e - 2).toNat * 4 = 2 ^ e * 2 ^ (-(e - 2)).toNat := by
    have hfour : (4 : ℚ) = 2 ^ (2 : ℤ) := by norm_num
    rw [hfour, ← zpow_natCast, ← zpow_natCast, ← two_zpow_add, ← two_zpow_add]
    congr 1
    omega
  have hpos : (0 : ℚ) < 2 ^ (-(e - 2)).toNat := by positivity
  rw [Nat.shiftLeft_eq, Nat.one_shiftLeft]
  push_cast
  rw [div_eq_iff hpos.ne', mul_assoc, ← hpower]
  ring

lemma value_div (m : ℕ) (e : ℤ) :
    ((ofBinary ⟨m, e⟩).value : ℚ) / (ofBinary ⟨m, e⟩).denominator = m * 2 ^ e := by
  simp only [ofBinary]
  rw [quarters_eq]
  push_cast
  ring

lemma high_div (m : ℕ) (e : ℤ) :
    ((ofBinary ⟨m, e⟩).high : ℚ) / (ofBinary ⟨m, e⟩).denominator = (m + 1 / 2) * 2 ^ e := by
  simp only [ofBinary]
  rw [quarters_eq]
  push_cast
  ring

lemma low_div (hm : 0 < m) (e : ℤ) :
    ((ofBinary ⟨m, e⟩).low : ℚ) / (ofBinary ⟨m, e⟩).denominator =
      (m - reachBelow m e) * 2 ^ e := by
  simp only [ofBinary, reachBelow, gt_iff_lt]
  rw [quarters_eq]
  simp only [Nat.one_shiftLeft]
  split
  · rw [Nat.cast_sub (by omega)]
    push_cast
    ring
  · rw [Nat.cast_sub (by omega)]
    push_cast
    ring

/-- The interval holds the numbers nearest to the double. -/
lemma roundsTo_of_contains (hm : 0 < m) {r : ℚ} (h : (ofBinary ⟨m, e⟩).Contains r) :
    RoundsTo m e r := by
  unfold Contains at h
  rw [low_div hm, high_div] at h
  split at h
  · rename_i hclosed
    refine ⟨h.1, h.2, fun _ => ?_⟩
    simpa [ofBinary] using hclosed
  · refine ⟨h.1.le, h.2.le, ?_⟩
    rintro (heq | heq)
    · exact absurd heq h.1.ne'
    · exact absurd heq h.2.ne

/-- Numbers strictly between the bounds lie inside. -/
lemma contains_of_lt (hm : 0 < m) {r : ℚ} (hlow : (m - reachBelow m e) * 2 ^ e < r)
    (hhigh : r < (m + 1 / 2) * 2 ^ e) : (ofBinary ⟨m, e⟩).Contains r := by
  unfold Contains
  rw [low_div hm, high_div]
  split
  · exact ⟨hlow.le, hhigh.le⟩
  · exact ⟨hlow, hhigh⟩

/-- Seventeen digits are enough: a step of their grid is less than the interval is long, so one
of the two neighbours of the double lies inside. -/
lemma exists_candidate (h : Canonical m e) (tie : Tie) {g : ℤ}
    (hg : (10 : ℚ) ^ (g + 16) ≤ m * 2 ^ e) :
    ((ofBinary ⟨m, e⟩).candidate? tie g).isSome = true := by
  by_contra hnone
  rw [Option.not_isSome_iff_eq_none] at hnone
  obtain ⟨c, hfloor, hnext, hc, hc'⟩ :=
    exists_neighbours (denominator_pos ⟨m, e⟩) hnone
  rw [value_div] at hfloor hnext
  have hpos := two_zpow_pos e
  have hreach := reachBelow_pos m e
  -- Neither neighbour lies inside, and so each lies beyond a bound.
  have hlow : (c : ℚ) * 10 ^ g ≤ (m - reachBelow m e) * 2 ^ e := by
    by_contra hlow
    refine hc (contains_of_lt h.pos (not_le.1 hlow) (hfloor.trans_lt ?_))
    exact mul_lt_mul_of_pos_right (by linarith) hpos
  have hhigh : (m + 1 / 2) * 2 ^ e ≤ ((c + 1 : ℕ) : ℚ) * 10 ^ g := by
    by_contra hhigh
    refine hc' (contains_of_lt h.pos (lt_trans ?_ hnext) (not_le.1 hhigh))
    exact mul_lt_mul_of_pos_right (by linarith) hpos
  have hstep : (1 / 2 + reachBelow m e) * 2 ^ e ≤ 10 ^ g := by
    push_cast at hhigh
    linarith
  have hgrid : 10 ^ 16 * (10 : ℚ) ^ g ≤ m * 2 ^ e := by
    rw [zpow_add₀ (by norm_num)] at hg
    norm_num at hg ⊢
    linarith
  have hlong : 10 ^ 16 * (1 / 2 + reachBelow m e) ≤ m := by
    refine le_of_mul_le_mul_right ?_ hpos
    calc 10 ^ 16 * (1 / 2 + reachBelow m e) * 2 ^ e ≤ 10 ^ 16 * (10 : ℚ) ^ g := by
          rw [mul_assoc]
          exact mul_le_mul_of_nonneg_left hstep (by norm_num)
      _ ≤ (m : ℚ) * 2 ^ e := hgrid
  -- A significand has too few bits for such a step.
  have hm : (m : ℚ) < 2 ^ 53 := by exact_mod_cast h.lt
  unfold reachBelow at hlong
  split at hlong
  · rename_i hpower
    have hm' : (m : ℚ) = 2 ^ 52 := by exact_mod_cast hpower.1
    norm_num at hlong hm'
    linarith
  · norm_num at hlong hm
    linarith

end

end Interval

/-- The shortest digits of a double denote a number that is nearest to it. -/
theorem roundsTo_shortest {m : ℕ} {e : ℤ} (h : Canonical m e) (tie : Tie) :
    RoundsTo m e (shortest tie ⟨m, e⟩).value := by
  have hvalue : 0 < (Interval.ofBinary ⟨m, e⟩).value := by
    have hm := h.pos
    simp only [Interval.ofBinary, Nat.shiftLeft_eq]
    positivity
  have hdenominator := Interval.denominator_pos ⟨m, e⟩
  have hmagnitude := ten_zpow_magnitude_le hvalue hdenominator
  rw [Interval.value_div] at hmagnitude
  unfold shortest
  rw [if_neg h.pos.ne']
  simp only
  generalize magnitude (Interval.ofBinary ⟨m, e⟩).value (Interval.ofBinary ⟨m, e⟩).denominator = k
    at hmagnitude
  split
  · rename_i x hx
    obtain ⟨n, -, hn⟩ := List.exists_of_findSome?_eq_some hx
    obtain ⟨c, hc, rfl⟩ := Option.map_eq_some_iff.1 hn
    rw [value_trim]
    exact Interval.roundsTo_of_contains h.pos
      ((Interval.inside_iff hdenominator _ _).1 (Interval.inside_of_candidate? hc))
  · -- The last of the grids has a candidate.
    rename_i hnone
    have hlast := List.findSome?_eq_none_iff.1 hnone 16 (by simp)
    rw [Option.map_eq_none_iff] at hlast
    have hsome := Interval.exists_candidate h tie (g := k - 17) (by
      have hexponent : k - 17 + 16 = k - 1 := by ring
      rwa [hexponent])
    rw [show k - ((16 : ℕ) + 1 : ℤ) = k - 17 from rfl] at hlast
    rw [hlast] at hsome
    cases hsome

/-- Seventeen digits are written at most. -/
lemma coefficient_shortest_le {m : ℕ} (hm : 0 < m) (e : ℤ) (tie : Tie) :
    (shortest tie ⟨m, e⟩).coefficient ≤ 10 ^ 17 := by
  have hvalue : 0 < (Interval.ofBinary ⟨m, e⟩).value := by
    simp only [Interval.ofBinary, Nat.shiftLeft_eq]
    positivity
  have hdenominator := Interval.denominator_pos ⟨m, e⟩
  have hmagnitude := lt_ten_zpow_magnitude hvalue hdenominator
  unfold shortest
  rw [if_neg hm.ne']
  simp only
  generalize magnitude (Interval.ofBinary ⟨m, e⟩).value (Interval.ofBinary ⟨m, e⟩).denominator = k
    at hmagnitude
  split
  · rename_i x hx
    obtain ⟨n, hn, hcandidate⟩ := List.exists_of_findSome?_eq_some hx
    obtain ⟨c, hc, rfl⟩ := Option.map_eq_some_iff.1 hcandidate
    have hexponent : k - (n + 1) + ((n + 1 : ℕ) : ℤ) = k := by
      push_cast
      ring
    have hle := Interval.candidate?_le hdenominator hc (n := n + 1) (by rwa [hexponent])
    rw [List.mem_range] at hn
    calc (trim 17 ⟨c, k - (n + 1)⟩).coefficient ≤ c := coefficient_trim_le 17 _
      _ ≤ 10 ^ (n + 1) := hle
      _ ≤ 10 ^ 17 := Nat.pow_le_pow_right (by omega) hn
  · exact Nat.zero_le _

end Decimal

end Atelier

/-
Doubles written out in full.

The text of a double is digits with at most one point, behind a minus sign or not, or one of
three words.  Either way it is read back as the double, NaN and the infinities included
(`readFloat?_plainText`).
-/
import Atelier.Proofs.Decimal.Numerals
import Atelier.Proofs.Text.Bare

namespace Atelier

/-! ## Decimals without a power of ten -/

namespace Decimal

variable {x : Decimal}

lemma positional_of_neg (he : x.exponent < 0) (whole whole' : List Char) :
    x.positional whole = x.positional whole' := by
  simp only [positional, if_neg (not_le.2 he)]

/-- A decimal that is written out is scanned into a numeral of the same value. -/
lemma exists_scan_positional (hx : 0 < x.coefficient) :
    ∃ numeral, Numeral.scan (x.positional []) = some numeral ∧ numeral.sign = none ∧
      numeral.whole ≠ [] ∧ numeral.value = x.value := by
  by_cases he : 0 ≤ x.exponent
  · have hne := naturalText_ne_nil x.coefficient
    have hdigits := (digits_naturalText x.coefficient).append
      (digits_replicate_zero x.exponent.toNat)
    have hne' : naturalText x.coefficient ++ List.replicate x.exponent.toNat '0' ≠ [] := by
      simp [hne]
    have hscan := Numeral.scan_whole hdigits hne' Numeral.noDigit_nil (by simp) rfl
    rw [positional, if_pos he]
    refine ⟨_, hscan, rfl, hne', ?_⟩
    obtain ⟨c, e⟩ := x
    obtain ⟨k, rfl⟩ := Int.eq_ofNat_of_zero_le he
    simp only [Numeral.value, Numeral.coefficient, Numeral.exponent, Option.getD_none,
      List.append_nil, List.length_nil, digitsValue_append, digitsValue_naturalText,
      digitsValue_replicate_zero, List.length_replicate, Int.toNat_natCast, value]
    push_cast
    rw [zpow_natCast]
    ring
  · obtain ⟨numeral, hspells, hvalue, -⟩ := spells_positional hx
    rw [positional_of_neg (not_le.1 he) [] ['.', '0']]
    exact ⟨numeral, hspells.scan, hspells.sign, hspells.whole, hvalue⟩

/-- There are digits and the point. -/
lemma isBare_of_mem_positional {c : Char} (h : c ∈ x.positional []) : isBare c = true := by
  have hdigits (hc : c ∈ naturalText x.coefficient) : isBare c = true :=
    isBare_of_isDigit (digits_naturalText x.coefficient c hc)
  have hzero {n : ℕ} (hc : c ∈ List.replicate n '0') : isBare c = true :=
    isBare_of_isDigit (digits_replicate_zero n c hc)
  simp only [positional] at h
  split at h
  · rw [List.append_nil, List.mem_append] at h
    rcases h with h | h
    · exact hdigits h
    · exact hzero h
  · split at h
    · rw [List.mem_append, List.mem_cons] at h
      rcases h with h | rfl | h
      · exact hdigits (List.mem_of_mem_take h)
      · rfl
      · exact hdigits (List.mem_of_mem_drop h)
    · rw [List.mem_cons, List.mem_cons, List.mem_append] at h
      rcases h with rfl | rfl | h | h
      · rfl
      · rfl
      · exact hzero h
      · exact hdigits h

end Decimal

/-! ## Doubles -/

lemma toLower_of_isDigit {c : Char} (h : c.isDigit = true) : c.toLower = c := by
  simp only [Char.isDigit, Bool.and_eq_true, decide_eq_true_eq] at h
  have hnine : c.val.toNat ≤ 57 := h.2
  refine dif_neg ?_
  rintro ⟨hletter, -⟩
  have hletter' : 65 ≤ c.val.toNat := hletter
  omega

/-- A numeral is no word. -/
lemma readFloat?_of_scan {text : List Char} {numeral : Numeral}
    (h : Numeral.scan text = some numeral) (hwhole : numeral.whole ≠ []) :
    readFloat? text = some numeral.toFloat := by
  obtain ⟨c, rest, hrest, hdigit⟩ : ∃ c rest, (Numeral.splitSign text).2 = c :: rest ∧
      c.isDigit = true := by
    rw [(Numeral.sign_and_whole_of_scan h).2] at hwhole
    cases hrest : (Numeral.splitSign text).2 with
    | nil => simp [hrest] at hwhole
    | cons c rest =>
      refine ⟨c, rest, rfl, ?_⟩
      by_contra hc
      simp [hrest, hc] at hwhole
  have hword {d : Char} {word : List Char} (hd : d.isDigit = false) :
      lowerAscii (c :: rest) ≠ d :: word := by
    intro heq
    rw [lowerAscii, List.map_cons, toLower_of_isDigit hdigit] at heq
    rw [(List.cons.inj heq).1, hd] at hdigit
    cases hdigit
  have hinf : lowerAscii (c :: rest) ≠ ['i', 'n', 'f'] := hword rfl
  have hinfinity : lowerAscii (c :: rest) ≠ ['i', 'n', 'f', 'i', 'n', 'i', 't', 'y'] := hword rfl
  have hnan : lowerAscii (c :: rest) ≠ ['n', 'a', 'n'] := hword rfl
  simp [readFloat?, hrest, hinf, hinfinity, hnan, h, hwhole]

lemma readFloat?_finite {x : Float} (hx : x.isFinite = true) :
    readFloat? (plainStyle.finite x) = some x := by
  rcases exists_of_isFinite hx with ⟨s, rfl⟩ | ⟨s, m, e, h, rfl⟩
  · cases s <;> decide +kernel
  · have hround := Decimal.roundsTo_shortest h .up
    obtain ⟨numeral, hscan, hsign, hwhole, hvalue⟩ :=
      Decimal.exists_scan_positional (Decimal.coefficient_shortest_pos h .up)
    rw [← hvalue] at hround
    have hmagnitude : plainStyle.magnitude (.ofModel (.pack (.finite s m e h.pos))) =
        (Decimal.shortest .up ⟨m, e⟩).positional [] := by
      unfold NumberStyle.magnitude
      rw [ofFloat_of_finite h]
      rfl
    rw [NumberStyle.finite, hmagnitude,
      readFloat?_of_scan (Numeral.scan_withSign hscan hsign _) hwhole,
      Numeral.toFloat_of_roundsTo h hsign hround s]

/-- The text of a double is read back as the double. -/
theorem readFloat?_plainText (x : Float) : readFloat? (plainText x).toList = some x := by
  by_cases hx : x.isFinite = true
  · rw [plainText, isNaN_of_isFinite hx, isInf_of_isFinite hx]
    simp only [Bool.false_eq_true, if_false, String.toList_ofList]
    exact readFloat?_finite hx
  · rcases exists_of_not_isFinite hx with ⟨s, rfl⟩ | rfl
    · cases s <;> decide +kernel
    · decide +kernel

/-- Only letters, digits, the point and the sign stand in the text of a double. -/
lemma isBare_of_mem_plainText {x : Float} {c : Char} (h : c ∈ (plainText x).toList) :
    isBare c = true := by
  by_cases hx : x.isFinite = true
  · rw [plainText, isNaN_of_isFinite hx, isInf_of_isFinite hx] at h
    simp only [Bool.false_eq_true, if_false, String.toList_ofList, NumberStyle.finite] at h
    split at h
    · rcases List.mem_cons.1 h with rfl | h
      · rfl
      · exact Decimal.isBare_of_mem_positional h
    · exact Decimal.isBare_of_mem_positional h
  · have hall : (plainText x).toList.all isBare = true := by
      rcases exists_of_not_isFinite hx with ⟨s, rfl⟩ | rfl
      · cases s <;> decide +kernel
      · decide +kernel
    exact List.all_eq_true.1 hall c h

end Atelier

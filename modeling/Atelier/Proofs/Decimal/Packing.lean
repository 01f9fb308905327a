/-
Doubles and their unpacked form.

A finite double other than zero is a sign, a significand and an exponent, of which the latter
two are `Canonical`: the significand has 53 bits, or fewer if the exponent is the least one.
Packing and unpacking are inverse to each other.

What is known of the bits of a double comes with no smaller part of Mathlib than all of it.
-/
import Mathlib
import Atelier.Decimal.Binary

namespace Atelier

open Float.Model
open Float.Model.UnpackedFloat (Sign packComponents unpackSign unpackExponent unpackMantissa
  packComponents_unpackSign_unpackExponent_unpackMantissa)

/-! ## Significand and exponent -/

/-- A significand and an exponent as rounding leaves them, however large the exponent. -/
structure Fits (m : Nat) (e : Int) : Prop where
  pos : 0 < m
  lt : m < 2 ^ 53
  low : -1074 ≤ e
  /-- Only over the least exponent are there fewer than 53 bits. -/
  normal : 2 ^ 52 ≤ m ∨ e = -1074

/-- The significand and the exponent of a finite double other than zero. -/
structure Canonical (m : Nat) (e : Int) : Prop extends Fits m e where
  high : e ≤ 971

/-- A normal double has the implicit bit in front of the stored ones. -/
lemma toNat_implicit (m : BitVec 52) : (1#1 ++ m).toNat = 2 ^ 52 + m.toNat := by
  rw [BitVec.toNat_append, ← Nat.shiftLeft_add_eq_or_of_lt m.isLt, Nat.shiftLeft_eq]
  rfl

lemma unpack_of_normal {s : Sign} {e : BitVec 11} {m : BitVec 52} (hzero : e ≠ 0#11)
    (hones : e ≠ 2047#11) :
    UnpackedFloat.unpack .binary64 (packComponents .binary64 s e m) =
      .finite s (2 ^ 52 + m.toNat) (e.toNat - 1075) (by omega) := by
  simp [UnpackedFloat.unpack, hzero, hones, toNat_implicit]
  rfl

lemma unpack_of_subnormal {s : Sign} {m : BitVec 52} (hm : 0 < m.toNat) :
    UnpackedFloat.unpack .binary64 (packComponents .binary64 s 0#11 m) =
      .finite s m.toNat (-1074) hm := by
  have hne : m ≠ 0#52 := by
    rintro rfl
    simp at hm
  simp [UnpackedFloat.unpack, hne]
  rfl

/-- What packing adds to the exponent. -/
lemma add_bias (e : Int) :
    e + (Format.binary64.exponentBias : Int) + ((52 : Nat) : Int) = e + 1075 := by
  show e + (1023 : Int) + (52 : Int) = e + 1075
  omega

lemma pack_of_normal {s : Sign} {m : Nat} {e : Int} (hm : 0 < m) (h : Canonical m e)
    (hnormal : 2 ^ 52 ≤ m) :
    UnpackedFloat.pack .binary64 (.finite s m e hm) =
      packComponents .binary64 s (.ofNat 11 (e + 1075).toNat) (.ofNat 52 m) := by
  have hlog : m.log2 = 52 := (Nat.log2_eq_iff (Nat.ne_of_gt hm)).2 ⟨hnormal, h.lt⟩
  have hhigh := h.high
  have hfits : ¬ 2 ^ 11 ≤ (e + 1075).toNat + 1 := by omega
  have hbits : m.log2 + 1 = Format.binary64.mantissaBits := by rw [hlog]; rfl
  simp only [UnpackedFloat.pack, add_bias]
  rw [if_neg hfits, if_pos hbits]

lemma pack_of_subnormal {s : Sign} {m : Nat} (hm : 0 < m) (hlt : m < 2 ^ 52) :
    UnpackedFloat.pack .binary64 (.finite s m (-1074) hm) =
      packComponents .binary64 s 0#11 (.ofNat 52 m) := by
  have hlog : m.log2 < 52 := (Nat.log2_lt (Nat.ne_of_gt hm)).2 hlt
  have hbits : ¬ m.log2 + 1 = Format.binary64.mantissaBits := by
    show ¬ m.log2 + 1 = 53
    omega
  simp only [UnpackedFloat.pack, add_bias]
  rw [if_neg (by decide), if_neg hbits]

/-- Unpacking undoes the packing of what is canonical. -/
lemma unpack_pack {m : Nat} {e : Int} (h : Canonical m e) (s : Sign) (hm : 0 < m) :
    (Float.Model.pack (.finite s m e hm)).unpack = .finite s m e hm := by
  show UnpackedFloat.unpack .binary64 (UnpackedFloat.pack .binary64 _) = _
  have hlt := h.lt
  have hlow := h.low
  have hhigh := h.high
  by_cases hnormal : 2 ^ 52 ≤ m
  · have he : (BitVec.ofNat 11 (e + 1075).toNat).toNat = (e + 1075).toNat := by
      rw [BitVec.toNat_ofNat, Nat.mod_eq_of_lt (by omega)]
    have hzero : BitVec.ofNat 11 (e + 1075).toNat ≠ 0#11 := by
      intro hzero
      rw [hzero, BitVec.toNat_zero] at he
      omega
    have hones : BitVec.ofNat 11 (e + 1075).toNat ≠ 2047#11 := by
      intro hones
      rw [hones] at he
      change 2047 = _ at he
      omega
    have hsignificand : 2 ^ 52 + (BitVec.ofNat 52 m).toNat = m := by
      rw [BitVec.toNat_ofNat]
      omega
    have hexponent : ((BitVec.ofNat 11 (e + 1075).toNat).toNat : Int) - 1075 = e := by omega
    rw [pack_of_normal hm h hnormal, unpack_of_normal hzero hones]
    simp only [hsignificand, hexponent]
  · obtain rfl : e = -1074 := h.normal.resolve_left hnormal
    have hm' : (BitVec.ofNat 52 m).toNat = m := by
      rw [BitVec.toNat_ofNat, Nat.mod_eq_of_lt (by omega)]
    rw [pack_of_subnormal hm (by omega), unpack_of_subnormal (by omega)]
    simp only [hm']

lemma canonical_of_normal {e : BitVec 11} (m : BitVec 52) (hzero : e ≠ 0#11)
    (hones : e ≠ 2047#11) : Canonical (2 ^ 52 + m.toNat) (e.toNat - 1075) := by
  have hm : m.toNat < 2 ^ 52 := m.isLt
  have he : e.toNat < 2 ^ 11 := e.isLt
  have hzero' : e.toNat ≠ 0 := fun h => hzero (BitVec.eq_of_toNat_eq h)
  have hones' : e.toNat ≠ 2047 := fun h => hones (BitVec.eq_of_toNat_eq h)
  exact ⟨⟨by omega, by omega, by omega, .inl (by omega)⟩, by omega⟩

lemma canonical_of_subnormal {m : BitVec 52} (hm : 0 < m.toNat) : Canonical m.toNat (-1074) := by
  have hlt : m.toNat < 2 ^ 52 := m.isLt
  exact ⟨⟨hm, by omega, by omega, .inr rfl⟩, by omega⟩

/-- Packing undoes unpacking. -/
lemma pack_unpack (v : Float.Model) : Float.Model.pack v.unpack = v := by
  have hbits := UnpackedFloat.pack_unpack_of_valid v.valid
  obtain ⟨bits, hvalid⟩ := v
  rw [Float.Model.pack, Float.Model.mk.injEq]
  exact UInt64.toBitVec_inj.1 hbits

lemma canonical_of_unpack_bits {b : BitVec Format.binary64.numBits} {s : Sign} {m : Nat}
    {e : Int} {hm : 0 < m} (h : UnpackedFloat.unpack .binary64 b = .finite s m e hm) :
    Canonical m e := by
  rw [← packComponents_unpackSign_unpackExponent_unpackMantissa b] at h
  generalize Sign.ofBitVec (unpackSign b) = sign at h
  generalize unpackExponent b = exponent at h
  generalize unpackMantissa b = mantissa at h
  by_cases hones : exponent = 2047#11
  · by_cases hmantissa : mantissa = 0#52 <;>
      simp [UnpackedFloat.unpack, hones, hmantissa] at h
  · by_cases hzero : exponent = 0#11
    · by_cases hmantissa : mantissa = 0#52
      · simp [UnpackedFloat.unpack, hzero, hmantissa] at h
      · have hpos : 0 < mantissa.toNat :=
          Nat.pos_of_ne_zero fun h => hmantissa (BitVec.eq_of_toNat_eq h)
        rw [hzero, unpack_of_subnormal hpos] at h
        obtain ⟨-, rfl, rfl⟩ := UnpackedFloat.finite.inj h
        exact canonical_of_subnormal hpos
    · rw [unpack_of_normal hzero hones] at h
      obtain ⟨-, rfl, rfl⟩ := UnpackedFloat.finite.inj h
      exact canonical_of_normal mantissa hzero hones

/-- The significand and the exponent of an unpacked double are canonical. -/
lemma canonical_of_unpack {v : Float.Model} {s : Sign} {m : Nat} {e : Int} {hm : 0 < m}
    (h : v.unpack = .finite s m e hm) : Canonical m e :=
  canonical_of_unpack_bits h

/-! ## Doubles from their parts -/

lemma signBit_eq (x : Float) :
    signBit x = (@unpackSign .binary64 x.toModel.toBits.toBitVec == 1#1) := by
  have hx : x.toModel.toBits.toNat < 2 ^ 64 := x.toModel.toBits.toNat_lt
  rw [Bool.eq_iff_iff, signBit, beq_iff_eq, beq_iff_eq, ← UInt64.toNat_inj, ← BitVec.toNat_inj,
    UInt64.toNat_shiftRight, unpackSign, BitVec.toNat_cast, BitVec.extractLsb_toNat]
  show x.toModel.toBits.toNat >>> 63 = 1 ↔ x.toModel.toBits.toNat >>> 63 % 2 = 1
  rw [Nat.shiftRight_eq_div_pow]
  omega

section

variable {m : Nat} {e : Int}

lemma signBit_of_finite (h : Canonical m e) (s : Sign) :
    signBit (.ofModel (.pack (.finite s m e h.pos))) = (s.toBitVec == 1#1) := by
  have hsign : unpackSign (UnpackedFloat.pack .binary64 (.finite s m e h.pos)) = s.toBitVec := by
    by_cases hnormal : 2 ^ 52 ≤ m
    · rw [pack_of_normal h.pos h hnormal, UnpackedFloat.unpackSign_packComponents]
    · obtain rfl : e = -1074 := h.normal.resolve_left hnormal
      rw [pack_of_subnormal h.pos (by omega), UnpackedFloat.unpackSign_packComponents]
  rw [signBit_eq, ← hsign]
  rfl

lemma neg_of_finite (h : Canonical m e) (s : Sign) :
    -Float.ofModel (.pack (.finite s m e h.pos)) = .ofModel (.pack (.finite (-s) m e h.pos)) := by
  show Float.ofModel (.pack (UnpackedFloat.neg (Float.Model.pack _).unpack)) = _
  rw [unpack_pack h]
  rfl

lemma ofFloat_of_finite (h : Canonical m e) (s : Sign) :
    Binary.ofFloat (.ofModel (.pack (.finite s m e h.pos))) = ⟨m, e⟩ := by
  unfold Binary.ofFloat
  rw [unpack_pack h]

lemma isFinite_of_finite (h : Canonical m e) (s : Sign) :
    (Float.ofModel (.pack (.finite s m e h.pos))).isFinite = true := by
  show UnpackedFloat.isFinite (Float.Model.pack _).unpack = true
  rw [unpack_pack h]
  rfl

end

/-- A finite double is zero or has a significand and an exponent. -/
lemma exists_of_isFinite {x : Float} (hx : x.isFinite = true) :
    (∃ s, x = .ofModel (.pack (.zero s))) ∨
      ∃ s m e, ∃ h : Canonical m e, x = .ofModel (.pack (.finite s m e h.pos)) := by
  obtain ⟨v⟩ := x
  have hpack := pack_unpack v
  cases hv : v.unpack with
  | infinity s =>
    change v.unpack.isFinite = true at hx
    rw [hv] at hx
    cases hx
  | notANumber =>
    change v.unpack.isFinite = true at hx
    rw [hv] at hx
    cases hx
  | zero s =>
    rw [hv] at hpack
    exact .inl ⟨s, by rw [hpack]⟩
  | finite s m e hm =>
    rw [hv] at hpack
    exact .inr ⟨s, m, e, canonical_of_unpack hv, by rw [hpack]⟩

lemma isNaN_of_isFinite {x : Float} (hx : x.isFinite = true) : x.isNaN = false := by
  change x.toModel.unpack.isFinite = true at hx
  show x.toModel.unpack.isNaN = false
  cases hunpack : x.toModel.unpack with
  | notANumber =>
    rw [hunpack] at hx
    cases hx
  | _ => rfl

lemma isInf_of_isFinite {x : Float} (hx : x.isFinite = true) : x.isInf = false := by
  change x.toModel.unpack.isFinite = true at hx
  show x.toModel.unpack.isInf = false
  cases hunpack : x.toModel.unpack with
  | infinity s =>
    rw [hunpack] at hx
    cases hx
  | _ => rfl

/-- A double that is not finite is infinite or NaN. -/
lemma exists_of_not_isFinite {x : Float} (hx : ¬ x.isFinite = true) :
    (∃ s, x = .ofModel (.pack (.infinity s))) ∨ x = .ofModel (.pack .notANumber) := by
  obtain ⟨v⟩ := x
  have hpack := pack_unpack v
  change ¬ v.unpack.isFinite = true at hx
  cases hv : v.unpack with
  | infinity s =>
    rw [hv] at hpack
    exact .inl ⟨s, by rw [hpack]⟩
  | notANumber =>
    rw [hv] at hpack
    exact .inr (by rw [hpack])
  | zero s => exact absurd (by rw [hv]; rfl) hx
  | finite s m e hm => exact absurd (by rw [hv]; rfl) hx

end Atelier

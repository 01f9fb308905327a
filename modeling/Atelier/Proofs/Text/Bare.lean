/-
Characters that stand for themselves in every text: letters and digits of ASCII, the point and
the hyphen.  Numbers, identifiers and names are written with them.  None of them is white space, so
trimming leaves what is written with them as it is (`trim_append`).
-/
import Mathlib.Tactic.Common
import Mathlib.Data.List.TakeWhile
import Atelier.Text.Blank

namespace Atelier

/-- Whether a character stands for itself in every text. -/
def isBare (c : Char) : Bool :=
  c.isAlphanum || c = '.' || c = '-'

section

variable {c : Char}

/-- The letters of ASCII by their code points. -/
lemma isAlpha_iff : c.isAlpha = true ↔
    0x41 ≤ c.toNat ∧ c.toNat ≤ 0x5A ∨ 0x61 ≤ c.toNat ∧ c.toNat ≤ 0x7A := by
  have hupper : c.isUpper = true ↔ 0x41 ≤ c.toNat ∧ c.toNat ≤ 0x5A := decide_eq_true_iff
  have hlower : c.isLower = true ↔ 0x61 ≤ c.toNat ∧ c.toNat ≤ 0x7A :=
    Bool.and_eq_true_iff.trans (and_congr decide_eq_true_iff decide_eq_true_iff)
  rw [← hupper, ← hlower]
  exact Bool.or_eq_true_iff

lemma isBare_of_isDigit (h : c.isDigit = true) : isBare c = true := by
  simp [isBare, Char.isAlphanum, h]

lemma toNat_of_isBare (h : isBare c = true) : 0x2D ≤ c.toNat ∧ c.toNat ≤ 0x7A := by
  simp only [isBare, Char.isAlphanum, Bool.or_eq_true, decide_eq_true_eq, isAlpha_iff,
    Char.isDigit_iff_toNat, ← Char.toNat_inj, Char.reduceToNat] at h
  omega

lemma isBlank_of_isBare (h : isBare c = true) : isBlank c = false := by
  obtain ⟨hlow, hhigh⟩ := toNat_of_isBare h
  simp only [isBlank, Bool.or_eq_false_iff, Bool.and_eq_false_iff, decide_eq_false_iff_not,
    beq_eq_false_iff_ne]
  omega

end

/-! ## White space around a text -/

section

variable {before middle after : List Char}

lemma dropWhile_isBlank_append (after : List Char) (hbefore : ∀ c ∈ before, isBlank c = true)
    (hmiddle : ∀ c ∈ middle, isBlank c = false) (hne : middle ≠ []) :
    (before ++ (middle ++ after)).dropWhile isBlank = middle ++ after := by
  obtain ⟨c, rest, rfl⟩ := List.exists_cons_of_ne_nil hne
  have hc : ¬ isBlank c = true := by simp [hmiddle c List.mem_cons_self]
  rw [List.dropWhile_append_of_pos hbefore, List.cons_append, List.dropWhile_cons_of_neg hc]

/-- White space around a text without white space is what trimming takes away. -/
lemma trim_append (hbefore : ∀ c ∈ before, isBlank c = true)
    (hmiddle : ∀ c ∈ middle, isBlank c = false) (hafter : ∀ c ∈ after, isBlank c = true) :
    trim (before ++ middle ++ after) = middle := by
  by_cases hne : middle = []
  · subst hne
    have hblank : ∀ c ∈ before ++ [] ++ after, isBlank c = true := by
      simpa using fun c hc => hc.elim (hbefore c) (hafter c)
    rw [trim, trimStart, List.dropWhile_eq_nil_iff.2 hblank]
    rfl
  · have hstart := dropWhile_isBlank_append after hbefore hmiddle hne
    have hend : (after.reverse ++ (middle.reverse ++ [])).dropWhile isBlank =
        middle.reverse ++ [] :=
      dropWhile_isBlank_append [] (by simpa using hafter) (by simpa using hmiddle)
        (by simpa using hne)
    rw [trim, trimStart, List.append_assoc, hstart, dropEnd, List.reverse_append,
      ← List.append_nil middle.reverse, hend, List.append_nil, List.reverse_reverse]

/-- Trimming takes away nothing but white space. -/
lemma exists_around_trim (text : List Char) :
    ∃ before after, text = before ++ trim text ++ after ∧
      (∀ c ∈ before, isBlank c = true) ∧ ∀ c ∈ after, isBlank c = true := by
  refine ⟨text.takeWhile isBlank, ((trimStart text).reverse.takeWhile isBlank).reverse, ?_,
    fun c => List.mem_takeWhile_imp, fun c hc => List.mem_takeWhile_imp (List.mem_reverse.1 hc)⟩
  rw [trim, dropEnd, List.append_assoc, ← List.reverse_append, List.takeWhile_append_dropWhile,
    List.reverse_reverse, trimStart, List.takeWhile_append_dropWhile]

/-- There is no white space around a bare text. -/
lemma trim_of_isBare {text : List Char} (h : ∀ c ∈ text, isBare c = true) : trim text = text := by
  have htrim : trim ([] ++ text ++ []) = text :=
    trim_append (by simp) (fun c hc => isBlank_of_isBare (h c hc)) (by simp)
  simpa using htrim

end

end Atelier

/-
Escaping text, and reading it back.

An escaped text holds no `<`, `>` or quote, and an ampersand in it is always the start of a
reference to one of five entities (`IsEscaped`).  Every text of this form is the escaped form of
exactly one text, which comes back if each reference gives way to its character
(`escape_reversible`).
-/
import Mathlib.Data.List.Infix
import Atelier.Xml.Escape

namespace Atelier.Xml

/-- The names of the entities that need no declaration. -/
def entityNames : List (List Char) :=
  ["amp".toList, "lt".toList, "gt".toList, "quot".toList, "apos".toList]

/-- The characters besides the ampersand that are always written as references. -/
def markupChars : List Char :=
  ['<', '>', '"', '\'']

/-- What an escaped text looks like. -/
structure IsEscaped (text : List Char) : Prop where
  notMarkup : ∀ c ∈ text, c ∉ markupChars
  reference : ∀ rest, '&' :: rest <:+ text → ∃ name ∈ entityNames, name ++ [';'] <+: rest

/-- A text in which each reference to one of the five entities gives way to its character, from
the left to the right.  A character that comes out is not looked at again. -/
def replaceReferences : List Char → List Char
  | '&' :: 'a' :: 'm' :: 'p' :: ';' :: rest => '&' :: replaceReferences rest
  | '&' :: 'l' :: 't' :: ';' :: rest => '<' :: replaceReferences rest
  | '&' :: 'g' :: 't' :: ';' :: rest => '>' :: replaceReferences rest
  | '&' :: 'q' :: 'u' :: 'o' :: 't' :: ';' :: rest => '"' :: replaceReferences rest
  | '&' :: 'a' :: 'p' :: 'o' :: 's' :: ';' :: rest => '\'' :: replaceReferences rest
  | c :: rest => c :: replaceReferences rest
  | [] => []

/-- An escaped text as it was. -/
def unescape (text : String) : String :=
  String.ofList (replaceReferences text.toList)

variable {c : Char} {text rest : List Char}

/-! ## The form of escaped text -/

lemma isEscaped_nil : IsEscaped [] :=
  ⟨by simp, by simp⟩

/-- The form of a text, by its first character. -/
lemma isEscaped_cons : IsEscaped (c :: text) ↔
    c ∉ markupChars ∧ (c = '&' → ∃ name ∈ entityNames, name ++ [';'] <+: text) ∧
      IsEscaped text := by
  constructor
  · rintro ⟨hmarkup, hreference⟩
    refine ⟨hmarkup c (by simp), ?_, fun d hd => hmarkup d (by simp [hd]), fun rest hrest => ?_⟩
    · rintro rfl
      exact hreference text List.suffix_rfl
    · exact hreference rest (hrest.trans (List.suffix_cons c text))
  · rintro ⟨hc, hfirst, hmarkup, hreference⟩
    refine ⟨List.forall_mem_cons.2 ⟨hc, hmarkup⟩, fun rest hrest => ?_⟩
    rcases List.suffix_cons_iff.1 hrest with heq | hsuffix
    · obtain ⟨rfl, rfl⟩ := List.cons.inj heq
      exact hfirst rfl
    · exact hreference rest hsuffix

/-- Other characters in front of a text do not change whether it has the form. -/
lemma isEscaped_append_iff {plain : List Char} (hplain : ∀ c ∈ plain, c ∉ '&' :: markupChars) :
    IsEscaped (plain ++ text) ↔ IsEscaped text := by
  induction plain with
  | nil => rfl
  | cons c plain ih =>
    obtain ⟨hc, hrest⟩ := List.forall_mem_cons.1 hplain
    obtain ⟨hamp, hmarkup⟩ := not_or.1 (List.mem_cons.not.1 hc)
    rw [List.cons_append, isEscaped_cons, ih hrest]
    simp [hamp, hmarkup]

/-- A reference in front of a text does not, either. -/
lemma isEscaped_reference_iff {name : List Char} (hname : name ∈ entityNames) :
    IsEscaped ('&' :: (name ++ [';']) ++ text) ↔ IsEscaped text := by
  have hnames : ∀ name ∈ entityNames, (name ++ [';']).all (· ∉ '&' :: markupChars) := by decide
  have hplain : ∀ c ∈ name ++ [';'], c ∉ '&' :: markupChars := fun c hc =>
    of_decide_eq_true (List.all_eq_true.1 (hnames name hname) c hc)
  have hamp : '&' ∉ markupChars := by decide
  rw [List.cons_append, isEscaped_cons, isEscaped_append_iff hplain]
  simp only [hamp, not_false_eq_true, true_and, and_iff_right_iff_imp]
  exact fun _ _ => ⟨name, hname, List.prefix_append _ text⟩

/-! ## Characters -/

/-- All characters but five stay as they are. -/
lemma escapeChar_cases (c : Char) :
    escapeChar c = [c] ∨ c = '&' ∨ c = '<' ∨ c = '>' ∨ c = '"' ∨ c = '\'' := by
  unfold escapeChar
  split <;> simp

lemma escapeChar_of_not_mem (hc : c ∉ '&' :: markupChars) : escapeChar c = [c] := by
  rcases escapeChar_cases c with hplain | rfl | rfl | rfl | rfl | rfl
  · exact hplain
  all_goals exact absurd (by decide) hc

/-- The other five become references. -/
lemma exists_entity_of_mem (hc : c ∈ '&' :: markupChars) :
    ∃ name ∈ entityNames, escapeChar c = '&' :: (name ++ [';']) := by
  simp only [markupChars, List.mem_cons, List.not_mem_nil, or_false] at hc
  rcases hc with rfl | rfl | rfl | rfl | rfl
  · exact ⟨"amp".toList, by decide, rfl⟩
  · exact ⟨"lt".toList, by decide, rfl⟩
  · exact ⟨"gt".toList, by decide, rfl⟩
  · exact ⟨"quot".toList, by decide, rfl⟩
  · exact ⟨"apos".toList, by decide, rfl⟩

lemma isEscaped_escapeChar_iff : IsEscaped (escapeChar c ++ text) ↔ IsEscaped text := by
  by_cases hc : c ∈ '&' :: markupChars
  · obtain ⟨name, hname, hreference⟩ := exists_entity_of_mem hc
    rw [hreference, isEscaped_reference_iff hname]
  · rw [escapeChar_of_not_mem hc, isEscaped_append_iff (List.forall_mem_singleton.2 hc)]

/-- Only an ampersand starts a reference. -/
lemma replaceReferences_cons (hc : c ≠ '&') :
    replaceReferences (c :: rest) = c :: replaceReferences rest := by
  simp [replaceReferences, hc]

lemma replaceReferences_escapeChar :
    replaceReferences (escapeChar c ++ rest) = c :: replaceReferences rest := by
  rcases escapeChar_cases c with hplain | rfl | rfl | rfl | rfl | rfl
  · have hc : c ≠ '&' := by
      rintro rfl
      cases hplain
    rw [hplain, List.singleton_append, replaceReferences_cons hc]
  all_goals rfl

/-! ## Texts -/

lemma isEscaped_flatMap_escapeChar (text : List Char) : IsEscaped (text.flatMap escapeChar) := by
  induction text with
  | nil => exact isEscaped_nil
  | cons c text ih =>
    rw [List.flatMap_cons]
    exact isEscaped_escapeChar_iff.2 ih

lemma replaceReferences_flatMap_escapeChar (text : List Char) :
    replaceReferences (text.flatMap escapeChar) = text := by
  induction text with
  | nil => rfl
  | cons c text ih => rw [List.flatMap_cons, replaceReferences_escapeChar, ih]

/-- Escaping brings back the references that were replaced, if the text has the right form. -/
lemma flatMap_escapeChar_replaceReferences (h : IsEscaped text) :
    (replaceReferences text).flatMap escapeChar = text := by
  have hstep {c : Char} {rest : List Char} (h : IsEscaped (escapeChar c ++ rest))
      (ih : IsEscaped rest → (replaceReferences rest).flatMap escapeChar = rest) :
      (c :: replaceReferences rest).flatMap escapeChar = escapeChar c ++ rest := by
    rw [List.flatMap_cons, ih (isEscaped_escapeChar_iff.1 h)]
  fun_induction replaceReferences text with
  | case1 rest ih => exact hstep h ih
  | case2 rest ih => exact hstep h ih
  | case3 rest ih => exact hstep h ih
  | case4 rest ih => exact hstep h ih
  | case5 rest ih => exact hstep h ih
  | case6 c rest hamp hlt hgt hquot hapos ih =>
    -- Every ampersand starts a reference, and none starts here.
    obtain ⟨hmarkup, hreference, hrest⟩ := isEscaped_cons.1 h
    have hc : c ≠ '&' := by
      intro hc
      obtain ⟨name, hname, rest', rfl⟩ := hreference hc
      simp only [entityNames, List.mem_cons, List.not_mem_nil, or_false] at hname
      rcases hname with rfl | rfl | rfl | rfl | rfl
      · exact hamp rest' hc rfl
      · exact hlt rest' hc rfl
      · exact hgt rest' hc rfl
      · exact hquot rest' hc rfl
      · exact hapos rest' hc rfl
    rw [List.flatMap_cons, ih hrest, escapeChar_of_not_mem (by simp [hc, hmarkup]),
      List.singleton_append]
  | case7 => rfl

lemma toList_escape (s : String) : (escape s).toList = s.toList.flatMap escapeChar :=
  String.toList_ofList

/-- A text without a character that has a meaning of its own stays as it is. -/
lemma escape_eq_self {s : String} (h : ∀ c ∈ s.toList, c ∉ '&' :: markupChars) : escape s = s := by
  have hplain : s.toList.flatMap escapeChar = s.toList.flatMap fun c => [c] :=
    List.flatMap_congr fun c hc => escapeChar_of_not_mem (h c hc)
  rw [escape, hplain, List.flatMap_singleton', String.ofList_toList]

lemma unescape_escape (s : String) : unescape (escape s) = s := by
  rw [unescape, toList_escape, replaceReferences_flatMap_escapeChar, String.ofList_toList]

lemma escape_unescape_iff (t : String) : escape (unescape t) = t ↔ IsEscaped t.toList := by
  constructor
  · intro h
    rw [← h, toList_escape]
    exact isEscaped_flatMap_escapeChar _
  · intro h
    rw [escape, unescape, String.toList_ofList, flatMap_escapeChar_replaceReferences h,
      String.ofList_toList]

/-- No `<`, `>` or quote is left in an escaped text, every ampersand in it starts the reference to
an entity, and the text comes back if each reference gives way to its character.  The texts that
come back if their references are replaced and the result is escaped are those of this form.
Different texts have different escaped forms, and a text is escaped piece by piece. -/
theorem escape_reversible :
    (∀ s, IsEscaped (escape s).toList ∧ unescape (escape s) = s) ∧
      (∀ t, escape (unescape t) = t ↔ IsEscaped t.toList) ∧
      Function.Injective escape ∧
      ∀ s t, escape (s ++ t) = escape s ++ escape t := by
  refine ⟨fun s => ⟨?_, unescape_escape s⟩, escape_unescape_iff,
    Function.LeftInverse.injective unescape_escape, fun s t => ?_⟩
  · rw [toList_escape]
    exact isEscaped_flatMap_escapeChar _
  · rw [escape, String.toList_append, List.flatMap_append, String.ofList_append]
    rfl

/-- What looks like a reference already comes back as it was. -/
example : escape "&lt;<" = "&amp;lt;&lt;" ∧ unescape "&amp;lt;&lt;" = "&lt;<" := by
  decide

end Atelier.Xml

/-
Colors that an XML snapshot keeps.

A color may be any text.  Only the five characters with a meaning of their own are escaped, so
tabs and line breaks are read as spaces, and with a character that no document may hold the
snapshot cannot be loaded at all.  The colors are kept exactly if all their characters can be
shown (`Sheet.reload_xmlText`).
-/
import Atelier.Proofs.Snapshot.Json
import Atelier.Proofs.Snapshot.Xml

namespace Atelier

/-! ## Texts that are no documents -/

namespace Xml

/-- A character that no document may hold is not escaped. -/
lemma isXmlChar_of_mem_escape {value : List Char}
    (h : ∀ c ∈ value.flatMap escapeChar, isXmlChar c = true) : ∀ c ∈ value, isXmlChar c = true := by
  intro c hc
  rcases escapeChar_cases c with hplain | rfl | rfl | rfl | rfl | rfl
  · exact h c (List.mem_flatMap.2 ⟨c, hc, by simp [hplain]⟩)
  all_goals rfl

/-- Wherever the reader is, it only goes on from a character that a document may hold. -/
lemma Reader.isXmlChar_of_step {r r' : Reader} {c : Char} (h : r.step c = some r') :
    isXmlChar c = true := by
  cases hc : isXmlChar c with
  | true => rfl
  | false =>
    have hnone : r.step c = none := if_pos (by rw [hc]; rfl)
    rw [hnone] at h
    cases h

lemma Reader.isXmlChar_of_run {r r' : Reader} {text : List Char} (h : r.run text = some r') :
    ∀ c ∈ text, isXmlChar c = true := by
  induction text generalizing r with
  | nil => simp
  | cons c text ih =>
    rw [run_cons] at h
    obtain ⟨r₁, hstep, hrun⟩ := Option.bind_eq_some_iff.1 h
    exact List.forall_mem_cons.2 ⟨isXmlChar_of_step hstep, ih hrun⟩

end Xml

open Xml (attributeText)

lemma Shape.isAllowed_of_xmlText {s : Shape Float}
    (h : ∀ c ∈ s.xmlText.toList, Xml.isXmlChar c = true) : s.paint.IsAllowed := by
  -- The colors stand in the text as the values of two of the attributes.
  have hvalue {name value : String} (ha : (name, value) ∈ s.xmlAttributes) :
      ∀ c ∈ value.toList, Xml.isXmlChar c = true := by
    refine Xml.isXmlChar_of_mem_escape fun c hc => h c ?_
    have hattribute : c ∈ attributeText (name, value) := by simp [attributeText, hc]
    have hmem := List.mem_flatMap_of_mem ha hattribute
    simp [toList_xmlText, hmem]
  have hfill : ("fill", s.paint.fill) ∈ s.xmlAttributes := by simp [xmlAttributes]
  have hstroke : ("stroke", s.paint.stroke) ∈ s.xmlAttributes := by simp [xmlAttributes]
  exact List.forall_mem_append.2 ⟨hvalue hfill, hvalue hstroke⟩

namespace Sheet

variable {sheet : Sheet Float}

/-- A snapshot is a document only if a document may hold all colors. -/
lemma isAllowed_of_parse_xmlText {root : Xml.Node} (h : Xml.parse sheet.xmlText = some root) :
    ∀ s ∈ sheet.shapes, s.paint.IsAllowed := by
  rw [parse_xmlText_eq] at h
  obtain ⟨r, hrun, -⟩ := Option.bind_eq_some_iff.1 h
  have hxml := Xml.Reader.isXmlChar_of_run hrun
  -- All of the text was read, and the line of each shape is a part of it.
  intro s hs
  refine Shape.isAllowed_of_xmlText fun c hc => hxml c ?_
  have hline : c ∈ ("  " ++ s.xmlText ++ "\n").toList := by simp [hc]
  have hlines : c ∈ (String.join (sheet.shapes.map fun s => "  " ++ s.xmlText ++ "\n")).toList := by
    rw [String.toList_join, List.flatMap_map]
    exact List.mem_flatMap_of_mem hs hline
  rw [toList_xmlText]
  simp only [List.mem_cons, List.mem_append, hlines, true_or, or_true]

/-! ## Loading a snapshot -/

/-- What a drawing becomes when it is saved as XML and loaded again. -/
lemma ofXmlText_xmlText_eq (sheet : Sheet Float) :
    ofXmlText sheet.xmlText =
      if ∀ s ∈ sheet.shapes, s.paint.IsAllowed then
        .ok ⟨sheet.shapes.map fun s => s.spaced.normalize⟩
      else .error (.xml sheet.xmlText) := by
  split
  · rename_i h
    rw [ofXmlText_of_parse (parse_xmlText_spaced h), spaced, List.map_map]
    rfl
  · rename_i h
    have hparse : Xml.parse sheet.xmlText = none := by
      rw [Option.eq_none_iff_forall_ne_some]
      exact fun root hroot => h (isAllowed_of_parse_xmlText hroot)
    rw [ofXmlText, hparse]

/-- The XML snapshot of a drawing is loaded, and each shape has its colors. -/
def KeepsColors (sheet : Sheet Float) : Prop :=
  ∃ loaded, ofXmlText sheet.xmlText = .ok loaded ∧
    List.Forall₂ (fun s t => t.paint.fill = s.paint.fill ∧ t.paint.stroke = s.paint.stroke)
      sheet.shapes loaded.shapes

lemma keepsColors_iff_isShown : sheet.KeepsColors ↔ ∀ s ∈ sheet.shapes, s.paint.IsShown := by
  constructor
  · rintro ⟨loaded, hload, hcolors⟩
    rw [ofXmlText_xmlText_eq] at hload
    split at hload
    · rename_i hallowed
      obtain rfl := Except.ok.inj hload
      rw [List.forall₂_map_right_iff, List.forall₂_same] at hcolors
      -- What comes back as it was is not changed by normalizing it.
      intro s hs
      have hfill : Xml.normalized s.paint.fill = s.paint.fill := (hcolors s hs).1
      have hstroke : Xml.normalized s.paint.stroke = s.paint.stroke := (hcolors s hs).2
      rw [← Paint.spaced_eq_self_iff (hallowed s hs), Paint.spaced, hfill, hstroke]
    · cases hload
  · intro h
    have hallowed : ∀ s ∈ sheet.shapes, s.paint.IsAllowed := fun s hs => (h s hs).isAllowed
    refine ⟨_, sheet.ofXmlText_xmlText_eq.trans (if_pos hallowed), ?_⟩
    rw [List.forall₂_map_right_iff, List.forall₂_same]
    intro s hs
    have hself : s.paint.spaced = s.paint :=
      (Paint.spaced_eq_self_iff (hallowed s hs)).2 (h s hs)
    exact ⟨congrArg Paint.fill hself, congrArg Paint.stroke hself⟩

/-- The XML snapshot of a drawing is loaded exactly if a document may hold its colors, and then
every tab and every line break in them is a space.  So the colors are kept exactly if all their
characters can be shown. -/
theorem reload_xmlText (sheet : Sheet Float) :
    ofXmlText sheet.xmlText =
        (if ∀ s ∈ sheet.shapes, s.paint.IsAllowed then
          .ok ⟨sheet.shapes.map fun s => s.spaced.normalize⟩
        else .error (.xml sheet.xmlText)) ∧
      (sheet.KeepsColors ↔ ∀ s ∈ sheet.shapes, s.paint.IsShown) :=
  ⟨sheet.ofXmlText_xmlText_eq, keepsColors_iff_isShown⟩

/-- A rectangle with a tab and a line break of two characters in a color. -/
def ruled : Sheet Float :=
  ⟨[⟨.ofNat 1, .rectangle, 10, 20, 30, 40, 0, .descending,
    ⟨"red\tblue\r\ngreen", "#000000", 2⟩⟩]⟩

lemma ofJsonText_ruled : ofJsonText ruled.jsonText = .ok ⟨ruled.shapes.map Shape.normalize⟩ :=
  ofJsonText_of_readsBack (by decide +kernel) (by decide +kernel)

/-- Not every drawing that is loaded from JSON keeps its colors in an XML snapshot. -/
theorem not_always_keepsColors :
    ¬ ∀ text sheet, ofJsonText text = .ok sheet → sheet.KeepsColors := by
  intro hall
  have hshown := keepsColors_iff_isShown.1 (hall _ _ ofJsonText_ruled)
  have htab : Xml.IsShown '\t' := hshown _ (List.mem_singleton.2 rfl) '\t' (by decide)
  revert htab
  decide

end Sheet

end Atelier

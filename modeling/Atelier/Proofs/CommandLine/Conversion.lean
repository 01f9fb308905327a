/-
Which files can be converted.

The command takes a file for XML if it starts with an angle bracket after white space, and for JSON
otherwise.  Both readers allow less white space than that before the first token, XML starts with an
angle bracket and JSON never does, so the right reader is asked
(`Json.head?_trimStart_ne`, `Xml.head?_trimStart`).  The exception is XML behind a byte order mark,
which is no white space: it is taken for JSON, and refused (`shapes_loads_iff`).
-/
import Atelier.Proofs.CommandLine.Steps
import Atelier.Proofs.Text.Bare
import Atelier.Proofs.Xml.Tags

namespace Atelier

/-! ## The first character of a text -/

section

variable {c : Char} {text : List Char}

lemma trimStart_cons_of_isBlank (h : isBlank c = true) : trimStart (c :: text) = trimStart text :=
  List.dropWhile_cons_of_pos h

lemma head?_trimStart_cons (h : isBlank c = false) : (trimStart (c :: text)).head? = some c := by
  rw [trimStart, List.dropWhile_cons_of_neg (by rw [h]; exact Bool.false_ne_true), List.head?_cons]

end

namespace Json

variable {c : Char} {text : List Char}

lemma isBlank_of_isSpace (h : isSpace c = true) : isBlank c = true := by
  simp only [isSpace, Bool.or_eq_true, decide_eq_true_eq] at h
  obtain ((rfl | rfl) | rfl) | rfl := h <;> rfl

namespace Reader

/-- No token starts with white space of any kind, or with an angle bracket. -/
lemma isBlank_of_stepBetween {b : Builder} {r : Reader} (h : stepBetween b c = some r)
    (hc : ¬ isSpace c = true) : isBlank c = false ∧ c ≠ '<' := by
  have hbare (h : isBare c = true) : isBlank c = false ∧ c ≠ '<' := by
    refine ⟨isBlank_of_isBare h, ?_⟩
    rintro rfl
    exact absurd h (by decide)
  unfold stepBetween at h
  rw [if_neg hc] at h
  split at h
  · subst c
    decide
  · split at h
    · rename_i hnumber
      rw [Bool.or_eq_true, decide_eq_true_eq] at hnumber
      obtain hdigit | rfl := hnumber
      · exact hbare (isBare_of_isDigit hdigit)
      · decide
    · split at h
      · rename_i hlower
        have halpha : c.isAlpha = true := Bool.or_eq_true_iff.2 (.inr hlower)
        exact hbare (by simp [isBare, Char.isAlphanum, halpha])
      · obtain ⟨t, ht, -⟩ := Option.bind_eq_some_iff.1 h
        unfold punctuation? at ht
        split at ht <;> first | decide | cases ht

lemma head?_trimStart_of_run {b : Builder} {r : Reader}
    (h : (Reader.mk .between b).run text = some r) : (trimStart text).head? ≠ some '<' := by
  induction text with
  | nil => exact Option.some_ne_none _ |>.symm
  | cons c text ih =>
    rw [run, List.foldlM_cons] at h
    obtain ⟨next, hnext, hrest⟩ := Option.bind_eq_some_iff.1 h
    by_cases hc : isSpace c = true
    · have hsame : stepBetween b c = some ⟨.between, b⟩ := if_pos hc
      obtain rfl := Option.some.inj (hsame.symm.trans hnext)
      rw [trimStart_cons_of_isBlank (isBlank_of_isSpace hc)]
      exact ih hrest
    · obtain ⟨hblank, hne⟩ := isBlank_of_stepBetween hnext hc
      rw [head?_trimStart_cons hblank]
      exact fun heq => hne (Option.some.inj heq)

end Reader

/-- JSON does not start with an angle bracket, whatever counts as white space. -/
lemma head?_trimStart_ne {text : String} {v : Json} (h : parse text = some v) :
    (trimStart text.toList).head? ≠ some '<' := by
  obtain ⟨r, hrun, -⟩ := Option.bind_eq_some_iff.1 h
  exact Reader.head?_trimStart_of_run hrun

end Json

namespace Xml

variable {c : Char} {text : List Char}

lemma isBlank_of_isSpace (h : isSpace c = true) : isBlank c = true :=
  Json.isBlank_of_isSpace h

/-- Whether a text starts with a byte order mark. -/
def IsMarked (text : String) : Prop :=
  text.toList.head? = some '\uFEFF'

instance (text : String) : Decidable (IsMarked text) :=
  inferInstanceAs (Decidable (_ = _))

lemma withoutMark_of_head?_ne (h : text.head? ≠ some '\uFEFF') : withoutMark text = text := by
  unfold withoutMark
  split
  · exact absurd rfl h
  · rfl

namespace Reader

/-- Text beside the root is no root. -/
lemma root?_endText {data : Data} {b : Builder} (h : endText {} data = some b) :
    b.root? = none := by
  unfold endText at h
  split at h
  · obtain rfl := Option.some.inj h
    rfl
  · obtain ⟨value, -, h⟩ := Option.bind_eq_some_iff.1 h
    obtain rfl := Option.some.inj h
    rfl

/-- Beside the root, white space is the only text. -/
lemma exists_of_step_text {data : Data} {r : Reader} (hc : c ≠ '<')
    (h : step ⟨.text data, {}⟩ c = some r) :
    isSpace c = true ∧ ∃ data, r = ⟨.text data, {}⟩ := by
  unfold step at h
  split at h
  · cases h
  · unfold stepText at h
    dsimp only at h
    rw [if_neg hc] at h
    split at h
    · cases h
    · rename_i hspace
      split at h
      · cases h
      · obtain ⟨data, -, h⟩ := Option.bind_eq_some_iff.1 h
        exact ⟨by simpa using hspace, data, (Option.some.inj h).symm⟩

/-- Outside the root nothing stands before the first angle bracket but white space. -/
lemma head?_trimStart_of_run {data : Data} {r : Reader} {root : Node}
    (h : (Reader.mk (.text data) {}).run text = some r) (hroot : r.root? = some root) :
    (trimStart text).head? = some '<' := by
  induction text generalizing data with
  | nil =>
    obtain rfl := Option.some.inj h
    obtain ⟨b, hended, hb⟩ := Option.bind_eq_some_iff.1 hroot
    rw [root?_endText hended] at hb
    cases hb
  | cons c text ih =>
    rw [run_cons] at h
    obtain ⟨next, hnext, hrest⟩ := Option.bind_eq_some_iff.1 h
    by_cases hc : c = '<'
    · rw [hc]
      exact head?_trimStart_cons rfl
    · obtain ⟨hspace, data, rfl⟩ := exists_of_step_text hc hnext
      rw [trimStart_cons_of_isBlank (isBlank_of_isSpace hspace)]
      exact ih hrest

end Reader

/-- XML starts with an angle bracket unless it starts with a mark. -/
lemma head?_trimStart {text : String} {root : Node} (h : parse text = some root)
    (hmark : ¬ IsMarked text) : (trimStart text.toList).head? = some '<' := by
  unfold parse at h
  rw [withoutMark_of_head?_ne hmark] at h
  dsimp only at h
  split at h
  · rename_i hdeclared
    obtain ⟨rest, hrest⟩ := List.isPrefixOf_iff_prefix.1 hdeclared
    rw [← hrest]
    exact head?_trimStart_cons rfl
  · obtain ⟨document, hdocument, h⟩ := Option.bind_eq_some_iff.1 h
    obtain rfl := Option.some.inj hdocument
    obtain ⟨r, hrun, hroot⟩ := Option.bind_eq_some_iff.1 h
    exact Reader.head?_trimStart_of_run hrun hroot

end Xml

/-! ## The reader that is asked -/

namespace Sheet

variable {text : String} {sheet : Sheet Float}

lemma ofText_of_head? (h : (trimStart text.toList).head? = some '<') :
    ofText text = ofXmlText text := by
  rw [ofText, SnapshotFormat.ofText, if_pos h, ofTextIn]

lemma ofText_of_head?_ne (h : (trimStart text.toList).head? ≠ some '<') :
    ofText text = ofJsonText text := by
  rw [ofText, SnapshotFormat.ofText, if_neg h, ofTextIn]

lemma exists_parse_of_ofJsonText (h : ofJsonText text = .ok sheet) :
    ∃ v, Json.parse text = some v := by
  cases hparse : Json.parse text with
  | none => rw [ofJsonText, hparse] at h; cases h
  | some v => exact ⟨v, rfl⟩

lemma exists_parse_of_ofXmlText (h : ofXmlText text = .ok sheet) :
    ∃ root, Xml.parse text = some root := by
  cases hparse : Xml.parse text with
  | none => rw [ofXmlText, hparse] at h; cases h
  | some root => exact ⟨root, rfl⟩

/-- What starts with a mark is taken for JSON, where there is none. -/
lemma ofText_of_isMarked (h : Xml.IsMarked text) : ofText text = .error (.json text) := by
  obtain ⟨rest, hrest⟩ := List.head?_eq_some_iff.1 h
  have hblank : isBlank '\uFEFF' = false := by decide
  have hparse : Json.parse text = none := by
    rw [Json.parse, hrest]
    rfl
  rw [ofText_of_head?_ne, ofJsonText, hparse, Option.bind_none]
  rw [hrest, head?_trimStart_cons hblank]
  decide

/-- A drawing is loaded if one of the readers accepts it and it is not XML behind a mark. -/
lemma ofText_eq_ok_iff :
    ofText text = .ok sheet ↔
      ofJsonText text = .ok sheet ∨ ofXmlText text = .ok sheet ∧ ¬ Xml.IsMarked text := by
  constructor
  · intro h
    by_cases hhead : (trimStart text.toList).head? = some '<'
    · refine .inr ⟨ofText_of_head? hhead ▸ h, fun hmark => ?_⟩
      rw [ofText_of_isMarked hmark] at h
      cases h
    · exact .inl (ofText_of_head?_ne hhead ▸ h)
  · rintro (h | ⟨h, hmark⟩)
    · obtain ⟨v, hv⟩ := exists_parse_of_ofJsonText h
      rw [ofText_of_head?_ne (Json.head?_trimStart_ne hv), h]
    · obtain ⟨root, hroot⟩ := exists_parse_of_ofXmlText h
      rw [ofText_of_head? (Xml.head?_trimStart hroot hmark), h]

end Sheet

/-! ## The command -/

namespace CommandLine

variable {s : Memory} {path text : String}

lemma executeOn_shapes_of_ok {sheet : Sheet Float} (config : Config) (format : SnapshotFormat)
    (hfile : s.file? path = some text.toUTF8) (h : Sheet.ofText text = .ok sheet) :
    executeOn config (.shapes path format) s =
      (.ok (), { s with printed := sheet.textIn format :: s.printed }) := by
  have hsheet := run_orError_of_ok .snapshot h s
  exact (run_bind_of_ok (run_readText hfile)).trans (run_bind_of_ok hsheet)

lemma executeOn_shapes_of_error {e : SnapshotError} (config : Config) (format : SnapshotFormat)
    (hfile : s.file? path = some text.toUTF8) (h : Sheet.ofText text = .error e) :
    executeOn config (.shapes path format) s = (.error (.snapshot e), s) := by
  have hsheet := run_orError_of_error .snapshot h s
  exact (run_bind_of_ok (run_readText hfile)).trans (run_bind_of_error hsheet)

/-- A file with a text is converted exactly if one of the readers accepts the text, and it is not
XML behind a byte order mark, which is refused like all that starts with one. -/
theorem shapes_loads_iff (config : Config) (format : SnapshotFormat)
    (hfile : s.file? path = some text.toUTF8) :
    (∀ sheet, Sheet.ofJsonText text = .ok sheet ∨
        Sheet.ofXmlText text = .ok sheet ∧ ¬ Xml.IsMarked text →
      executeOn config (.shapes path format) s =
        (.ok (), { s with printed := sheet.textIn format :: s.printed })) ∧
    ((∀ sheet, Sheet.ofJsonText text ≠ .ok sheet ∧
        (Sheet.ofXmlText text = .ok sheet → Xml.IsMarked text)) →
      ∃ e, executeOn config (.shapes path format) s = (.error (.snapshot e), s)) ∧
    (Xml.IsMarked text →
      executeOn config (.shapes path format) s = (.error (.snapshot (.json text)), s)) := by
  refine ⟨fun sheet h => ?_, fun hnone => ?_, fun hmark => ?_⟩
  · exact executeOn_shapes_of_ok config format hfile (Sheet.ofText_eq_ok_iff.2 h)
  · cases h : Sheet.ofText text with
    | error e => exact ⟨e, executeOn_shapes_of_error config format hfile h⟩
    | ok sheet =>
      obtain ⟨hjson, hxml⟩ := hnone sheet
      obtain h | ⟨h, hmark⟩ := Sheet.ofText_eq_ok_iff.1 h
      · exact absurd h hjson
      · exact absurd (hxml h) hmark
  · exact executeOn_shapes_of_error config format hfile (Sheet.ofText_of_isMarked hmark)

/-- A host with one file. -/
def hostOf (path text : String) : Memory :=
  { files := [(path, text.toUTF8)] }

lemma file?_hostOf (text : String) : (hostOf "a.xml" text).file? "a.xml" = some text.toUTF8 := rfl

/-- A line break may stand in front of XML. -/
theorem shapes_loads_iff_indented :
    executeOn {} (.shapes "a.xml" .json) (hostOf "a.xml" "\n<shapes version=\"1\"/>") =
      (.ok (), { hostOf "a.xml" "\n<shapes version=\"1\"/>" with
        printed := ["\x7b\n  \"version\": 1,\n  \"shapes\": []\n\x7d"] }) := by
  have hxml : Sheet.ofXmlText "\n<shapes version=\"1\"/>" = .ok ⟨[]⟩ := by decide +kernel
  have hmark : ¬ Xml.IsMarked "\n<shapes version=\"1\"/>" := by decide
  have hloads := (shapes_loads_iff {} .json (file?_hostOf _)).1 ⟨[]⟩ (.inr ⟨hxml, hmark⟩)
  have htext : (Sheet.mk [] : Sheet Float).textIn .json =
      "\x7b\n  \"version\": 1,\n  \"shapes\": []\n\x7d" := by decide +kernel
  rw [hloads, htext]
  rfl

/-- XML behind a byte order mark is accepted by its reader, and not converted. -/
theorem not_always_loaded :
    ¬ ∀ (s : Memory) (path text : String) (sheet : Sheet Float),
      s.file? path = some text.toUTF8 →
      Sheet.ofJsonText text = .ok sheet ∨ Sheet.ofXmlText text = .ok sheet →
      (executeOn {} (.shapes path .json) s).1 = .ok () := by
  intro hall
  have hxml : Sheet.ofXmlText "\uFEFF<shapes version=\"1\"/>" = .ok ⟨[]⟩ := by decide +kernel
  have hjson : Sheet.ofText "\uFEFF<shapes version=\"1\"/>" = .error (.json _) :=
    Sheet.ofText_of_isMarked rfl
  have hloads := hall _ _ _ _ (file?_hostOf "\uFEFF<shapes version=\"1\"/>") (.inr hxml)
  rw [executeOn_shapes_of_error {} .json (file?_hostOf _) hjson] at hloads
  cases hloads

end CommandLine

end Atelier

/-
Reading the elements that are written.

An element whose names have no prefix and whose attributes have different names is put where it
belongs, with the values of its attributes normalized (`Reader.run_emptyElement`,
`Reader.run_startTag`, `Reader.run_endTag`).
-/
import Mathlib.Data.List.Nodup
import Atelier.Proofs.Xml.Tags

namespace Atelier.Xml

/-! ## Attributes -/

/-- The text of an attribute, with a space before it. -/
def attributeText (a : String × String) : List Char :=
  ' ' :: (a.1.toList ++ '=' :: '"' :: (a.2.toList.flatMap escapeChar ++ ['"']))

/-- Attributes with their names in full. -/
def named (attributes : List (String × String)) : List (QName × String) :=
  attributes.map fun a => (⟨"", a.1⟩, a.2)

/-- Attributes as nodes have them. -/
def plainAttributes (attributes : List (String × String)) : List Attribute :=
  attributes.map fun a => ⟨none, a.1, a.2⟩

/-- Attributes that can be written: different names without a prefix, none of them that of a
namespace declaration, and values of characters that a document may hold. -/
structure IsWritable (attributes : List (String × String)) : Prop where
  name : ∀ a ∈ attributes, isPlainName a.1.toList = true
  declares : ∀ a ∈ attributes, a.1 ≠ "xmlns"
  nodup : (attributes.map Prod.fst).Nodup
  value : ∀ a ∈ attributes, ∀ c ∈ a.2.toList, isXmlChar c = true

/-- A text as it is read from the value of an attribute. -/
def normalized (value : String) : String :=
  String.ofList (normalizeValue value.toList)

/-- An attribute as it is read. -/
def normalizedAttribute (a : String × String) : String × String :=
  (a.1, normalized a.2)

section

variable {value : String}

lemma normalized_of_isShown (h : ∀ c ∈ value.toList, IsShown c) : normalized value = value := by
  rw [normalized, normalizeValue_of_isShown h, String.ofList_toList]

lemma normalized_eq_self_iff (h : ∀ c ∈ value.toList, isXmlChar c = true) :
    normalized value = value ↔ ∀ c ∈ value.toList, IsShown c := by
  rw [← normalizeValue_eq_self_iff h, normalized, ← String.toList_inj, String.toList_ofList]

example : normalized "red\tblue\r\ngreen\n\r" = "red blue green  " := by decide

end

section

variable {attributes : List (String × String)}

/-- Attributes can be written again as they are read. -/
lemma IsWritable.map_normalized (h : IsWritable attributes) :
    IsWritable (attributes.map normalizedAttribute) where
  name := List.forall_mem_map.2 h.name
  declares := List.forall_mem_map.2 h.declares
  nodup := by
    rw [List.map_map]
    exact h.nodup
  value := by
    rw [List.forall_mem_map]
    intro a ha c hc
    rw [normalizedAttribute, normalized, String.toList_ofList] at hc
    exact (isShown_of_mem_normalizeValue (h.value a ha) c hc).2

lemma eraseDups_of_nodup {α : Type} [BEq α] [LawfulBEq α] {l : List α} (h : l.Nodup) :
    l.eraseDups = l := by
  induction l with
  | nil => rfl
  | cons a l ih =>
    obtain ⟨ha, hl⟩ := List.nodup_cons.1 h
    have hfilter : l.filter (fun b => !b == a) = l := by
      rw [List.filter_eq_self]
      intro b hb
      have hne : b ≠ a := by
        rintro rfl
        exact ha hb
      simpa using hne
    rw [List.eraseDups_cons, hfilter, ih hl]

lemma declares?_eq_none (h : ∀ a ∈ attributes, a.1 ≠ "xmlns") {a : QName × String}
    (ha : a ∈ named attributes) : a.1.declares? = none := by
  obtain ⟨a, hmem, rfl⟩ := List.mem_map.1 ha
  simp [QName.declares?, h a hmem]

/-- Attributes of which none declares a namespace. -/
lemma declarations?_named (h : ∀ a ∈ attributes, a.1 ≠ "xmlns") :
    declarations? (named attributes) = some [] := by
  rw [declarations?, named, List.foldlM_map]
  induction attributes with
  | nil => rfl
  | cons a attributes ih =>
    have hdeclares := declares?_eq_none h (a := (⟨"", a.1⟩, a.2)) (by simp [named])
    rw [List.foldlM_cons]
    simp only [hdeclares]
    exact ih fun a' ha' => h a' (by simp [ha'])

lemma mapM_named {resolve : QName × String → Option Attribute}
    (h : ∀ a : String × String, resolve (⟨"", a.1⟩, a.2) = some ⟨none, a.1, a.2⟩) :
    (named attributes).mapM resolve = some (plainAttributes attributes) := by
  have hresolve : (resolve ∘ fun a : String × String => (⟨"", a.1⟩, a.2)) =
      fun a => pure ⟨none, a.1, a.2⟩ := funext h
  rw [named, List.mapM_map, hresolve, List.mapM_pure]
  rfl

/-- They stay as they are if no two have the same name. -/
lemma resolve?_named (h : ∀ a ∈ attributes, a.1 ≠ "xmlns")
    (hnodup : (attributes.map Prod.fst).Nodup) (scope : Scope) :
    resolve? scope (named attributes) = some (plainAttributes attributes) := by
  have hfilter : (named attributes).filter (·.1.declares?.isNone) = named attributes := by
    rw [List.filter_eq_self]
    intro a ha
    rw [declares?_eq_none h ha, Option.isNone_none]
  have hnames : ((plainAttributes attributes).map fun a => (a.space, a.name)).Nodup := by
    have hmap : ((plainAttributes attributes).map fun a => (a.space, a.name)) =
        (attributes.map Prod.fst).map fun name => (none, name) := by
      simp [plainAttributes]
    rw [hmap]
    exact List.Nodup.map (fun _ _ heq => (Prod.mk.inj heq).2) hnodup
  rw [resolve?, hfilter, mapM_named fun a => rfl]
  simp only [Option.bind_eq_bind, Option.bind_some]
  rw [eraseDups_of_nodup hnames, if_pos rfl]

/-- A writable element opens inside another one, or as the root of a document that has none. -/
lemma openElement_named (h : IsWritable attributes) (name : String) {b : Builder}
    (hroot : b.frames = [] → b.root = none) :
    b.openElement ⟨"", name⟩ (named attributes) =
      some { b with frames := ⟨⟨"", name⟩, plainAttributes attributes, [],
        (b.frames.head?.map (·.scope)).getD []⟩ :: b.frames } := by
  have hfree : ¬ (b.frames.isEmpty = true ∧ b.root.isSome = true) := by
    rintro ⟨hempty, hsome⟩
    rw [hroot (List.isEmpty_iff.1 hempty)] at hsome
    cases hsome
  rw [Builder.openElement, declarations?_named h.declares]
  simp only [Option.bind_eq_bind, Option.bind_some, List.nil_append]
  rw [resolve?_named h.declares h.nodup, Option.bind_some, if_neg (by decide), if_neg (by simp),
    if_neg hfree]

end

/-! ## Runs -/

namespace Reader

variable {b : Builder} {attributes : List (String × String)} {name : String} {rest : List Char}

lemma run_attributes {q : QName} (hname : ∀ a ∈ attributes, isPlainName a.1.toList = true)
    (hvalue : ∀ a ∈ attributes, ∀ c ∈ a.2.toList, isXmlChar c = true)
    (as : List (QName × String)) :
    run ⟨.tag ⟨q, as, .gap false⟩, b⟩ (attributes.flatMap attributeText ++ rest) =
      run ⟨.tag ⟨q, (named (attributes.map normalizedAttribute)).reverse ++ as, .gap false⟩, b⟩
        rest := by
  induction attributes generalizing as with
  | nil => rfl
  | cons a attributes ih =>
    have htext : (a :: attributes).flatMap attributeText ++ rest =
        ' ' :: (a.1.toList ++ '=' :: '"' :: (a.2.toList.flatMap escapeChar ++
          '"' :: (attributes.flatMap attributeText ++ rest))) := by
      simp [attributeText]
    have hnamed : (named ((a :: attributes).map normalizedAttribute)).reverse ++ as =
        (named (attributes.map normalizedAttribute)).reverse ++
          (⟨"", a.1⟩, normalized a.2) :: as := by
      simp [named, normalizedAttribute]
    rw [htext, run_gap_space, run_attribute (hname a (by simp)) (hvalue a (by simp)),
      ih (fun a' ha' => hname a' (by simp [ha'])) (fun a' ha' => hvalue a' (by simp [ha'])),
      hnamed, String.ofList_toList, normalized]

/-- A start tag begins with the name of its element. -/
lemma run_opened {c : Char} (hc : isNameStart c = true) :
    run ⟨.opened, b⟩ (c :: rest) = run ⟨.tag .start, b⟩ (c :: rest) := by
  have hne {d : Char} (hd : isNameStart d = false) : c ≠ d := by
    rintro rfl
    rw [hc] at hd
    cases hd
  have hxml : isXmlChar c = true := isXmlChar_of_isNameChar (by simp [isNameChar, hc])
  have hstep : step ⟨.opened, b⟩ c = step ⟨.tag .start, b⟩ c := by
    show (if !isXmlChar c then none else _) = if !isXmlChar c then none else stepTag b .start c
    rw [hxml]
    simp only [Bool.not_true, Bool.false_eq_true, if_false]
    split
    · exact absurd rfl (hne (d := '!') (by decide))
    · exact absurd rfl (hne (d := '?') (by decide))
    · exact absurd rfl (hne (d := '/') (by decide))
    · rfl
  rw [run_cons, run_cons, hstep]

/-- A start tag up to its end, with at least one attribute. -/
lemma run_tag (hname : isPlainName name.toList = true) (h : IsWritable attributes)
    (hne : attributes ≠ []) :
    run ⟨.opened, b⟩ (name.toList ++ (attributes.flatMap attributeText ++ rest)) =
      run ⟨.tag ⟨⟨"", name⟩, (named (attributes.map normalizedAttribute)).reverse, .gap false⟩, b⟩
        rest := by
  -- The space before the first attribute ends the name.
  obtain ⟨a, attributes', rfl⟩ := List.exists_cons_of_ne_nil hne
  obtain ⟨text, htext⟩ : ∃ text, (a :: attributes').flatMap attributeText ++ rest = ' ' :: text :=
    ⟨_, rfl⟩
  have hopened : run ⟨.opened, b⟩ (name.toList ++ ' ' :: text) =
      run ⟨.tag .start, b⟩ (name.toList ++ ' ' :: text) := by
    have hstart := hname
    rw [isPlainName, Bool.and_eq_true] at hstart
    cases hlist : name.toList with
    | nil =>
      rw [hlist] at hstart
      cases hstart.1
    | cons c chars =>
      rw [hlist] at hstart
      exact run_opened hstart.1
  have hread : run ⟨.tag .start, b⟩ (name.toList ++ ' ' :: text) =
      run ⟨.tag ⟨⟨"", ""⟩, [], .name name.toList.reverse⟩, b⟩ (' ' :: text) := by
    rw [Tag.start, run_name .name (fun chars c hc => step_name chars hc)
      (isNameChar_of_isPlainName hname), List.append_nil]
  rw [htext, hopened, hread, run_name_space hname, ← htext,
    run_attributes h.name h.value, List.append_nil, String.ofList_toList]

/-- An element begins inside another one, or as the root. -/
lemma run_startTag (hname : isPlainName name.toList = true) (h : IsWritable attributes)
    (hne : attributes ≠ []) (hroot : b.frames = [] → b.root = none) :
    run ⟨.opened, b⟩ (name.toList ++ (attributes.flatMap attributeText ++ '>' :: rest)) =
      run (resume { b with frames := ⟨⟨"", name⟩,
        plainAttributes (attributes.map normalizedAttribute), [],
        (b.frames.head?.map (·.scope)).getD []⟩ :: b.frames }) rest := by
  rw [run_tag hname h hne]
  -- From here on only the attributes that were read matter.
  have hread := h.map_normalized
  generalize attributes.map normalizedAttribute = read at hread ⊢
  have hend : step ⟨.tag ⟨⟨"", name⟩, (named read).reverse, .gap false⟩, b⟩ '>' =
      (endTag b ⟨⟨"", name⟩, (named read).reverse, .gap false⟩ false).bind (some ∘ resume) := rfl
  rw [run_cons, hend, endTag, List.reverse_reverse, openElement_named hread name hroot]
  rfl

/-- An element without content is put into the one around it. -/
lemma run_emptyElement {f : Frame} {frames : List Frame} {root : Option Node}
    (hname : isPlainName name.toList = true) (h : IsWritable attributes) (hne : attributes ≠ []) :
    run ⟨.opened, ⟨f :: frames, root⟩⟩
        (name.toList ++ (attributes.flatMap attributeText ++ '/' :: '>' :: rest)) =
      run (resume ⟨{ f with
        children := .element name (plainAttributes (attributes.map normalizedAttribute)) [] ::
          f.children } :: frames, root⟩) rest := by
  rw [run_tag hname h hne]
  have hread := h.map_normalized
  generalize attributes.map normalizedAttribute = read at hread ⊢
  have hslash : Tag.step ⟨⟨"", name⟩, (named read).reverse, .gap false⟩ '/' =
      some (.more ⟨⟨"", name⟩, (named read).reverse, .slash⟩) := rfl
  have hend : step ⟨.tag ⟨⟨"", name⟩, (named read).reverse, .slash⟩, ⟨f :: frames, root⟩⟩ '>' =
      (endTag ⟨f :: frames, root⟩ ⟨⟨"", name⟩, (named read).reverse, .slash⟩ true).bind
        (some ∘ resume) := rfl
  rw [run_tag_cons rfl hslash, run_cons, hend, endTag, List.reverse_reverse,
    openElement_named hread name (by simp)]
  simp [Builder.closeElement, Builder.put]

/-- The name in an end tag. -/
lemma run_closing {chars : List Char} (hname : ∀ c ∈ chars, isNameChar c = true)
    (done : List Char) :
    run ⟨.closing done, b⟩ (chars ++ rest) = run ⟨.closing (chars.reverse ++ done), b⟩ rest := by
  induction chars generalizing done with
  | nil => rfl
  | cons c chars ih =>
    have hc : isNameChar c = true := hname c (by simp)
    have hend : c ≠ '>' := by
      rintro rfl
      revert hc
      decide
    have hstep : step ⟨.closing done, b⟩ c = some ⟨.closing (c :: done), b⟩ := by
      show (if !isXmlChar c then none else if c = '>' then _ else _) = _
      rw [isXmlChar_of_isNameChar hc, if_neg (by decide), if_neg hend]
    rw [List.cons_append, run_cons, hstep, Option.bind_some,
      ih fun d hd => hname d (by simp [hd]), List.reverse_cons, List.append_assoc,
      List.singleton_append]

/-- The root ends. -/
lemma run_endTag {f : Frame} (hname : isPlainName name.toList = true) (hf : f.name = ⟨"", name⟩) :
    run ⟨.opened, ⟨[f], none⟩⟩ ('/' :: (name.toList ++ '>' :: rest)) =
      run (resume ⟨[], some (.element name f.attributes f.children.reverse)⟩) rest := by
  have hchars := isNameChar_of_isPlainName hname
  have hslash : step ⟨.opened, ⟨[f], none⟩⟩ '/' = some ⟨.closing [], ⟨[f], none⟩⟩ := rfl
  have hend : step ⟨.closing (name.toList.reverse ++ []), ⟨[f], none⟩⟩ '>' =
      (endClosing ⟨[f], none⟩ (name.toList.reverse ++ []).reverse).bind (some ∘ resume) := rfl
  have htake : name.toList.takeWhile isNameChar = name.toList := List.takeWhile_eq_self_iff.2 hchars
  have hdrop : name.toList.dropWhile isNameChar = [] := List.dropWhile_eq_nil_iff.2 hchars
  rw [run_cons, hslash, Option.bind_some, run_closing hchars, run_cons, hend, List.append_nil,
    List.reverse_reverse, endClosing, htake, hdrop, ofText?_of_isPlainName hname]
  simp [Builder.closeElement, Builder.put, hf]

end Reader

end Atelier.Xml

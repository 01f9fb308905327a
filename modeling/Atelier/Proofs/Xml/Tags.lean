/-
Reading the tags that are written.

A tag is read a character at a time; what has been read of it is in its `TagPart`.  A run over a
name ends with the name (`run_name`), and a run over an escaped text with the text, its white
space normalized (`run_escape`).  From these a whole attribute is read (`run_attribute`).
-/
import Atelier.Proofs.Text.Bare
import Atelier.Proofs.Xml.Escape
import Atelier.Xml.Reader

namespace Atelier.Xml

/-! ## Characters and names -/

/-- A character that an attribute value may hold as it is or as a reference. -/
def IsShown (c : Char) : Prop :=
  0x20 ≤ c.toNat ∧ isXmlChar c = true

instance : DecidablePred IsShown :=
  fun c => inferInstanceAs (Decidable (0x20 ≤ c.toNat ∧ isXmlChar c = true))

/-- Whether a text is a name without a prefix. -/
def isPlainName (text : List Char) : Bool :=
  text.head?.any isNameStart && text.all fun c => isNameChar c && c ≠ ':'

section

variable {text : List Char}

lemma ofText?_of_isPlainName (h : isPlainName text = true) :
    QName.ofText? text = some ⟨"", String.ofList text⟩ := by
  simp only [isPlainName, Bool.and_eq_true, List.all_eq_true, decide_eq_true_eq] at h
  obtain ⟨hstart, hchars⟩ := h
  obtain ⟨c, rest, rfl⟩ : ∃ c rest, text = c :: rest := by
    cases text with
    | nil => cases hstart
    | cons c rest => exact ⟨c, rest, rfl⟩
  have hcolon : ':' ∉ c :: rest := fun hmem => (hchars ':' hmem).2 rfl
  have hnone : (c :: rest).dropWhile (· ≠ ':') = [] := by
    rw [List.dropWhile_eq_nil_iff]
    intro d hd
    simpa using (hchars d hd).2
  have hstart' : isNameStart c = true := hstart
  simp only [QName.ofText?, hnone]
  simp [hcolon, hstart']

lemma isNameChar_of_isPlainName (h : isPlainName text = true) :
    ∀ c ∈ text, isNameChar c = true := by
  intro c hc
  simp only [isPlainName, Bool.and_eq_true, List.all_eq_true] at h
  exact (h.2 c hc).1

lemma isShown_of_isNameChar {c : Char} (h : isNameChar c = true) : IsShown c := by
  simp only [isNameChar, isNameStart, Bool.or_eq_true, Bool.and_eq_true, decide_eq_true_eq,
    beq_iff_eq, isAlpha_iff, Char.isDigit_iff_toNat, ← Char.toNat_inj, Char.reduceToNat] at h
  simp only [IsShown, isXmlChar]
  rw [if_neg (by omega), Bool.and_eq_true, bne_iff_ne, bne_iff_ne]
  refine ⟨?_, ?_, ?_⟩ <;> omega

lemma isXmlChar_of_isNameChar {c : Char} (h : isNameChar c = true) : isXmlChar c = true :=
  (isShown_of_isNameChar h).2

end

/-! ## Runs -/

namespace Reader

variable {r : Reader} {b : Builder} {t t' : Tag} {c : Char} {rest : List Char}

lemma run_cons : r.run (c :: rest) = (r.step c).bind (·.run rest) :=
  List.foldlM_cons

/-- A character that the tag goes on with. -/
lemma run_tag_cons (hc : isXmlChar c = true) (h : t.step c = some (.more t')) :
    run ⟨.tag t, b⟩ (c :: rest) = run ⟨.tag t', b⟩ rest := by
  have hstep : step ⟨.tag t, b⟩ c = some ⟨.tag t', b⟩ := by
    show (if !isXmlChar c then none else stepTag b t c) = _
    rw [hc, stepTag, h]
    rfl
  rw [run_cons, hstep, Option.bind_some]

variable {q k : QName} {as : List (QName × String)} {name : List Char}

/-- A run over the characters of a name, in a part of the tag that collects them. -/
lemma run_name (part : List Char → TagPart)
    (hpart : ∀ chars, ∀ c, isNameChar c = true →
      Tag.step ⟨q, as, part chars⟩ c = some (.more ⟨q, as, part (c :: chars)⟩))
    (hname : ∀ c ∈ name, isNameChar c = true) (chars : List Char) :
    run ⟨.tag ⟨q, as, part chars⟩, b⟩ (name ++ rest) =
      run ⟨.tag ⟨q, as, part (name.reverse ++ chars)⟩, b⟩ rest := by
  induction name generalizing chars with
  | nil => rfl
  | cons c name ih =>
    have hc : isNameChar c = true := hname c (by simp)
    rw [List.cons_append, run_tag_cons (isXmlChar_of_isNameChar hc) (hpart chars c hc),
      ih (fun d hd => hname d (by simp [hd])), List.reverse_cons, List.append_assoc,
      List.singleton_append]

lemma step_name (chars : List Char) (hc : isNameChar c = true) :
    Tag.step ⟨q, as, .name chars⟩ c = some (.more ⟨q, as, .name (c :: chars)⟩) := by
  simp [Tag.step, hc]

lemma step_key (chars : List Char) (hc : isNameChar c = true) :
    Tag.step ⟨q, as, .key chars⟩ c = some (.more ⟨q, as, .key (c :: chars)⟩) := by
  simp [Tag.step, hc]

/-- White space stands before an attribute. -/
lemma run_gap_space :
    run ⟨.tag ⟨q, as, .gap false⟩, b⟩ (' ' :: rest) = run ⟨.tag ⟨q, as, .gap true⟩, b⟩ rest :=
  run_tag_cons rfl rfl

/-- White space ends the name of an element. -/
lemma run_name_space (hname : isPlainName name = true) :
    run ⟨.tag ⟨q, as, .name name.reverse⟩, b⟩ (' ' :: rest) =
      run ⟨.tag ⟨⟨"", String.ofList name⟩, as, .gap false⟩, b⟩ (' ' :: rest) := by
  have hstep : Tag.step ⟨q, as, .name name.reverse⟩ ' ' =
      some (.more ⟨⟨"", String.ofList name⟩, as, .gap true⟩) := by
    have hspace : isNameChar ' ' = false := by decide
    simp only [Tag.step, hspace, List.reverse_reverse, ofText?_of_isPlainName hname]
    rfl
  rw [run_gap_space, run_tag_cons rfl hstep]

lemma step_gap (hc : isNameChar c = true) :
    Tag.step ⟨q, as, .gap true⟩ c = some (.more ⟨q, as, .key [c]⟩) := by
  have hne {d : Char} (hd : isNameChar d = false) : c ≠ d := by
    rintro rfl
    rw [hc] at hd
    cases hd
  have hspace : isSpace c = false := by
    simp only [isSpace, Bool.or_eq_false_iff, decide_eq_false_iff_not]
    exact ⟨⟨⟨hne (by decide), hne (by decide)⟩, hne (by decide)⟩, hne (by decide)⟩
  have hslash : c ≠ '/' := hne (by decide)
  have hend : c ≠ '>' := hne (by decide)
  simp [Tag.step, Tag.stepGap, hspace, hslash, hend, hc]

/-- The name of an attribute, and what stands between it and the value. -/
lemma run_key (hname : isPlainName name = true) :
    run ⟨.tag ⟨q, as, .gap true⟩, b⟩ (name ++ '=' :: '"' :: rest) =
      run ⟨.tag ⟨q, as, .value ⟨"", String.ofList name⟩ '"' {}⟩, b⟩ rest := by
  have hchars := isNameChar_of_isPlainName hname
  have hequals : Tag.step ⟨q, as, .key name.reverse⟩ '=' =
      some (.more ⟨q, as, .quote ⟨"", String.ofList name⟩⟩) := by
    have hequals : isNameChar '=' = false := by decide
    simp only [Tag.step, hequals, List.reverse_reverse, ofText?_of_isPlainName hname]
    rfl
  have hkey : run ⟨.tag ⟨q, as, .gap true⟩, b⟩ (name ++ '=' :: '"' :: rest) =
      run ⟨.tag ⟨q, as, .key name.reverse⟩, b⟩ ('=' :: '"' :: rest) := by
    cases name with
    | nil => cases hname
    | cons c name =>
      have hc : isNameChar c = true := hchars c (by simp)
      rw [List.cons_append, run_tag_cons (isXmlChar_of_isNameChar hc) (step_gap hc),
        run_name .key (fun chars d hd => step_key chars hd) (fun d hd => hchars d (by simp [hd])),
        List.reverse_cons]
  rw [hkey, run_tag_cons rfl hequals, run_tag_cons rfl rfl]

end Reader

/-! ## Normalized values -/

/-- What is read of a text whose white space stands as it is in the value of an attribute: a tab
becomes a space, and so does a line break of one or of two characters. -/
def normalizeValue : List Char → List Char
  | '\r' :: '\n' :: rest => ' ' :: normalizeValue rest
  | c :: rest => (if isSpace c then ' ' else c) :: normalizeValue rest
  | [] => []

/-- A character that can be shown is white space only if it is a space. -/
lemma IsShown.eq_space {c : Char} (hc : IsShown c) (hspace : isSpace c = true) : c = ' ' := by
  obtain ⟨hlow, -⟩ := hc
  simp only [isSpace, Bool.or_eq_true, decide_eq_true_eq] at hspace
  rcases hspace with ((rfl | rfl) | rfl) | rfl
  · rfl
  all_goals revert hlow; decide

/-- The white space apart, what a document may hold can be shown. -/
lemma isShown_of_not_isSpace {c : Char} (hc : isXmlChar c = true) (hspace : ¬ isSpace c = true) :
    IsShown c := by
  refine ⟨not_lt.1 fun hlow => hspace ?_, hc⟩
  rw [isXmlChar] at hc
  simp only [isSpace, Bool.or_eq_true, decide_eq_true_eq, ← Char.toNat_inj, Char.reduceToNat]
  simp only [if_pos hlow, Bool.or_eq_true, beq_iff_eq] at hc
  omega

/-- Whatever a document may hold can be shown once it is normalized. -/
lemma isShown_of_mem_normalizeValue {value : List Char} (h : ∀ c ∈ value, isXmlChar c = true) :
    ∀ c ∈ normalizeValue value, IsShown c := by
  have hblank : IsShown ' ' := by decide
  fun_induction normalizeValue value with
  | case1 rest ih =>
    rw [List.forall_mem_cons]
    exact ⟨hblank, ih fun c hc => h c (by simp [hc])⟩
  | case2 c rest hbreak ih =>
    rw [List.forall_mem_cons]
    refine ⟨?_, ih fun d hd => h d (by simp [hd])⟩
    split
    · exact hblank
    · rename_i hspace
      exact isShown_of_not_isSpace (h c (by simp)) hspace
  | case3 => simp

lemma normalizeValue_of_isShown {value : List Char} (h : ∀ c ∈ value, IsShown c) :
    normalizeValue value = value := by
  fun_induction normalizeValue value with
  | case1 rest ih =>
    exact absurd (h '\r' (by simp)) (by decide)
  | case2 c rest hbreak ih =>
    rw [ih fun d hd => h d (by simp [hd])]
    split
    · rename_i hspace
      rw [(h c (by simp)).eq_space hspace]
    · rfl
  | case3 => rfl

/-- A value is read as it was written exactly if all of it can be shown. -/
lemma normalizeValue_eq_self_iff {value : List Char} (h : ∀ c ∈ value, isXmlChar c = true) :
    normalizeValue value = value ↔ ∀ c ∈ value, IsShown c := by
  constructor
  · intro hself
    rw [← hself]
    exact isShown_of_mem_normalizeValue h
  · exact normalizeValue_of_isShown

namespace Reader

variable {b : Builder} {c : Char} {q k : QName} {as : List (QName × String)}
  {name rest : List Char}

/-! ## Values -/

/-- The reader inside the value of an attribute, after the characters `done` in reverse.  The
last one was a carriage return if `returned` says so, and `n` closing brackets are counted. -/
def inValue (q : QName) (as : List (QName × String)) (k : QName) (b : Builder)
    (done : List Char) (returned : Bool) (n : Nat) : Reader :=
  ⟨.tag ⟨q, as, .value k '"' ⟨done, none, returned, n⟩⟩, b⟩

lemma run_plain_value {returned : Bool} (hc : isXmlChar c = true) (hamp : c ≠ '&')
    (hopen : c ≠ '<') (hquote : c ≠ '"') (hbreak : returned = true → c ≠ '\n')
    (done : List Char) (n : Nat) :
    ∃ n', run (inValue q as k b done returned n) (c :: rest) =
      run (inValue q as k b ((if isSpace c then ' ' else c) :: done) (c = '\r') n') rest := by
  have hpair : ¬ (c = '\n' ∧ returned = true) := fun ⟨hnewline, hreturned⟩ =>
    hbreak hreturned hnewline
  -- Closing brackets are counted in a value too, though only a text may not hold `]]>`.
  obtain ⟨n', hdata⟩ : ∃ n', Data.step ' ' ' ' ⟨done, none, returned, n⟩ c =
      some ⟨(if isSpace c then ' ' else c) :: done, none, c = '\r', n'⟩ := by
    by_cases hreturn : c = '\r'
    · subst hreturn
      exact ⟨0, rfl⟩
    · refine ⟨if c = ']' then min 2 (n + 1) else 0, ?_⟩
      have hshown : (if c = '\n' then ' ' else if c = '\t' then ' ' else c) =
          if isSpace c then ' ' else c := by
        by_cases hspace : c = ' '
        · subst hspace
          rfl
        · simp only [isSpace, hspace, hreturn, Bool.or_eq_true, decide_eq_true_eq]
          grind
      simp [Data.step, hamp, hpair, hreturn, hshown]
  refine ⟨n', run_tag_cons hc ?_⟩
  simp [Tag.step, hopen, hquote, hdata]

/-- A character of a value is read, as it is or from its reference. -/
lemma run_escapeChar {returned : Bool} (hc : isXmlChar c = true)
    (hbreak : returned = true → c ≠ '\n') (done : List Char) (n : Nat) :
    ∃ n', run (inValue q as k b done returned n) (escapeChar c ++ rest) =
      run (inValue q as k b ((if isSpace c then ' ' else c) :: done) (c = '\r') n') rest := by
  unfold escapeChar
  split
  · exact ⟨0, rfl⟩
  · exact ⟨0, rfl⟩
  · exact ⟨0, rfl⟩
  · exact ⟨0, rfl⟩
  · exact ⟨0, rfl⟩
  · rename_i hamp hopen hclose hquote hapos
    exact run_plain_value hc hamp hopen hquote hbreak done n

/-- The second character of a line break is passed over. -/
lemma run_newline (done : List Char) (n : Nat) :
    run (inValue q as k b done true n) ('\n' :: rest) =
      run (inValue q as k b done false 0) rest :=
  rfl

lemma run_escape {value : List Char} (hvalue : ∀ c ∈ value, isXmlChar c = true)
    (done : List Char) (returned : Bool) (n : Nat)
    (hbreak : returned = true → value.head? ≠ some '\n') :
    ∃ returned' n', run (inValue q as k b done returned n) (value.flatMap escapeChar ++ rest) =
      run (inValue q as k b ((normalizeValue value).reverse ++ done) returned' n') rest := by
  -- Whether the last character was a carriage return only matters if a line feed comes next.
  fun_induction normalizeValue value generalizing done returned n with
  | case1 value ih =>
    obtain ⟨returned', n', hrest⟩ := ih (fun d hd => hvalue d (by simp [hd])) (' ' :: done) false 0
      (by simp)
    refine ⟨returned', n', ?_⟩
    obtain ⟨n₁, hreturn⟩ : ∃ n₁, run (inValue q as k b done returned n)
          ('\r' :: '\n' :: (value.flatMap escapeChar ++ rest)) =
        run (inValue q as k b (' ' :: done) true n₁)
          ('\n' :: (value.flatMap escapeChar ++ rest)) :=
      run_plain_value rfl (by decide) (by decide) (by decide) (fun _ => by decide) done n
    have htext : ('\r' :: '\n' :: value).flatMap escapeChar ++ rest =
        '\r' :: '\n' :: (value.flatMap escapeChar ++ rest) := rfl
    rw [htext, hreturn, run_newline, hrest, List.reverse_cons, List.append_assoc,
      List.singleton_append]
  | case2 c value hpair ih =>
    have hfirst : returned = true → c ≠ '\n' := fun hreturned hc =>
      hbreak hreturned (by rw [hc, List.head?_cons])
    -- After a carriage return no line feed follows here.
    have hnext : decide (c = '\r') = true → value.head? ≠ some '\n' := by
      intro hreturn hhead
      obtain ⟨value', rfl⟩ := List.head?_eq_some_iff.1 hhead
      exact hpair value' (of_decide_eq_true hreturn) rfl
    obtain ⟨n₁, hread⟩ : ∃ n₁, run (inValue q as k b done returned n)
          (escapeChar c ++ (value.flatMap escapeChar ++ rest)) =
        run (inValue q as k b ((if isSpace c then ' ' else c) :: done) (c = '\r') n₁)
          (value.flatMap escapeChar ++ rest) :=
      run_escapeChar (hvalue c (by simp)) hfirst done n
    obtain ⟨returned', n', hrest⟩ := ih (fun d hd => hvalue d (by simp [hd])) _ _ n₁ hnext
    refine ⟨returned', n', ?_⟩
    rw [List.flatMap_cons, List.append_assoc, hread, hrest, List.reverse_cons,
      List.append_assoc, List.singleton_append]
  | case3 => exact ⟨returned, n, rfl⟩

/-- An attribute with its escaped value. -/
lemma run_attribute {value : List Char} (hname : isPlainName name = true)
    (hvalue : ∀ c ∈ value, isXmlChar c = true) :
    run ⟨.tag ⟨q, as, .gap true⟩, b⟩
        (name ++ '=' :: '"' :: (value.flatMap escapeChar ++ '"' :: rest)) =
      run ⟨.tag ⟨q, (⟨"", String.ofList name⟩, String.ofList (normalizeValue value)) :: as,
        .gap false⟩, b⟩ rest := by
  have hkey (text : List Char) : run ⟨.tag ⟨q, as, .gap true⟩, b⟩ (name ++ '=' :: '"' :: text) =
      run (inValue q as ⟨"", String.ofList name⟩ b [] false 0) text := run_key hname
  obtain ⟨returned, n, hread⟩ : ∃ returned n,
      run (inValue q as ⟨"", String.ofList name⟩ b [] false 0)
        (value.flatMap escapeChar ++ '"' :: rest) =
      run (inValue q as ⟨"", String.ofList name⟩ b ((normalizeValue value).reverse ++ [])
        returned n) ('"' :: rest) :=
    run_escape hvalue [] false 0 (by simp)
  have hquote : Tag.step ⟨q, as, .value ⟨"", String.ofList name⟩ '"'
      ⟨(normalizeValue value).reverse ++ [], none, returned, n⟩⟩ '"' =
      some (.more ⟨q, (⟨"", String.ofList name⟩, String.ofList (normalizeValue value)) :: as,
        .gap false⟩) := by
    simp [Tag.step, Data.text?]
  rw [hkey, hread, inValue, run_tag_cons rfl hquote]

end Reader

end Atelier.Xml

/-
Reading a printed JSON value gives the value back, but for its doubles.

`Reader.outcome` is what a reader makes of a text that may end here or go on.  A printed value,
wherever it stands, takes its place in the containers around it, and what follows it is read as
if the value were already there (`Legible.reads`).  The induction is on the value;
an array or object that is half read keeps the items so far, the last first.
-/
import Atelier.Json.Canonical
import Atelier.Json.Printer
import Atelier.Proofs.Json.Reread
import Atelier.Proofs.Text.Digits

namespace Atelier.Json

/-! ## What the reader makes of a text -/

/-- The containers once a text has been read to its end. -/
def Reader.outcome (r : Reader) (text : List Char) : Option Builder :=
  (r.run text).bind settle

/-- The text goes on with a character that is part of no word or number, or not at all. -/
def Breaks (text : List Char) : Prop :=
  ∀ c ∈ text.head?, c.isLower = false ∧ isNumberChar c = false

lemma breaks_nil : Breaks [] := by
  simp [Breaks]

lemma breaks_cons {c : Char} {text : List Char} (hlower : c.isLower = false)
    (hnumber : isNumberChar c = false) : Breaks (c :: text) := by
  simp [Breaks, hlower, hnumber]

namespace Reader

@[simp] lemma outcome_cons (r : Reader) (c : Char) (text : List Char) :
    r.outcome (c :: text) = (r.step c).bind (outcome · text) := by
  simp [outcome, run, List.foldlM_cons, Option.bind_assoc]

lemma outcome_append {r r' : Reader} {text : List Char} (h : r.run text = some r')
    (rest : List Char) : r.outcome (text ++ rest) = r'.outcome rest := by
  simp only [run] at h
  simp [outcome, run, List.foldlM_append, h]

/-- A word or number that a break follows has ended. -/
lemma outcome_of_settle {mode : Mode} {b b' : Builder} {rest : List Char}
    (hrest : Breaks rest) (hmode : ∀ s, mode ≠ .string s)
    (hsettle : settle ⟨mode, b⟩ = some b') :
    outcome ⟨mode, b⟩ rest = outcome ⟨.between, b'⟩ rest := by
  cases rest with
  | nil => exact hsettle
  | cons c rest =>
    obtain ⟨hlower, hnumber⟩ := hrest c rfl
    rw [outcome_cons, outcome_cons]
    cases mode with
    | between =>
      obtain rfl : b = b' := Option.some.inj hsettle
      rfl
    | word chars => simp [step, hlower, hsettle]
    | number chars => simp [step, hnumber, hsettle]
    | string s => exact absurd rfl (hmode s)

/-- White space between tokens does not matter. -/
lemma outcome_spaces (b : Builder) (n : Nat) (rest : List Char) :
    outcome ⟨.between, b⟩ (List.replicate n ' ' ++ rest) = outcome ⟨.between, b⟩ rest := by
  induction n with
  | zero => rfl
  | succ n ih =>
    rw [List.replicate_succ, List.cons_append, outcome_cons]
    exact ih

lemma outcome_newline (b : Builder) (depth : Nat) (rest : List Char) :
    outcome ⟨.between, b⟩ (newline depth ++ rest) = outcome ⟨.between, b⟩ rest := by
  rw [newline, List.cons_append, outcome_cons]
  exact outcome_spaces b (2 * depth) rest

/-- Punctuation between tokens. -/
lemma outcome_punctuation {c : Char} {t : Token} (b : Builder) (rest : List Char)
    (hc : punctuation? c = some t) :
    outcome ⟨.between, b⟩ (c :: rest) =
      (b.take t).bind fun b => outcome ⟨.between, b⟩ rest := by
  rw [outcome_cons]
  have hstep : step ⟨.between, b⟩ c = (b.take t).bind fun b => some ⟨.between, b⟩ := by
    unfold punctuation? at hc
    split at hc <;> cases hc <;> rfl
  simp [hstep, Option.bind_assoc]

end Reader

/-! ## Strings -/

/-- A digit of a code unit that is not the last one. -/
lemma step_unit {c : Char} {d left value : Nat} (hc : hexDigit? c = some d) (hleft : ¬ left ≤ 1)
    (b : Builder) (done : List Char) :
    Reader.step ⟨.string { done, escape := some (.unit left value) }, b⟩ c =
      some ⟨.string { done, escape := some (.unit (left - 1) (16 * value + d)) }, b⟩ := by
  simp [Reader.step, Spelling.step, hc, hleft]

/-- The last digit of a code unit that is no surrogate. -/
lemma step_unit_last {c : Char} {d n : Nat} (hc : hexDigit? c = some d)
    (hsmall : 16 * n + d < 0xD800) (b : Builder) (done : List Char) :
    Reader.step ⟨.string { done, escape := some (.unit 1 n) }, b⟩ c =
      some ⟨.string { done := Char.ofNat (16 * n + d) :: done }, b⟩ := by
  have hhigh : ¬ (0xD800 ≤ 16 * n + d ∧ 16 * n + d < 0xDC00) := by omega
  have hlow : ¬ (0xDC00 ≤ 16 * n + d ∧ 16 * n + d < 0xE000) := by omega
  simp [Reader.step, Spelling.step, Spelling.pushUnit, Spelling.push, hc, hhigh, hlow]

/-- A control character, as a code unit of four digits. -/
lemma run_unit {c : Char} (hc : c.toNat < 0x20) (b : Builder) (done : List Char) :
    Reader.run ⟨.string { done }, b⟩
        ['\\', 'u', '0', '0', Nat.digitChar (c.toNat / 16), Nat.digitChar (c.toNat % 16)] =
      some ⟨.string { done := c :: done }, b⟩ := by
  have hhigh : hexDigit? (Nat.digitChar (c.toNat / 16)) = some (c.toNat / 16) :=
    hexDigit?_digitChar (by omega)
  have hlow : hexDigit? (Nat.digitChar (c.toNat % 16)) = some (c.toNat % 16) :=
    hexDigit?_digitChar (by omega)
  have hzero : hexDigit? '0' = some 0 := by decide
  have hvalue : 16 * (c.toNat / 16) + c.toNat % 16 = c.toNat := by omega
  have hopen : Reader.step ⟨.string { done }, b⟩ '\\' =
      some ⟨.string { done, escape := some .opened }, b⟩ := rfl
  have hunit : Reader.step ⟨.string { done, escape := some .opened }, b⟩ 'u' =
      some ⟨.string { done, escape := some (.unit 4 0) }, b⟩ := rfl
  have hlast := step_unit_last (n := c.toNat / 16) hlow (by omega) b done
  rw [hvalue, Char.ofNat_toNat] at hlast
  simp only [Reader.run, List.foldlM_cons, List.foldlM_nil, Option.bind_eq_bind, Option.bind_some,
    hopen, hunit, step_unit hzero (by decide : ¬ 4 ≤ 1), step_unit hzero (by decide : ¬ 3 ≤ 1),
    step_unit hhigh (by decide : ¬ 2 ≤ 1), Nat.reduceSub, Nat.mul_zero, Nat.zero_add, hlast]
  rfl

/-- A string takes up each character of its text again. -/
lemma run_escapeChar (b : Builder) (done : List Char) (c : Char) :
    Reader.run ⟨.string { done }, b⟩ (escapeChar c) = some ⟨.string { done := c :: done }, b⟩ := by
  unfold escapeChar
  split
  case h_8 hquote hbackslash _ _ _ _ _ =>
    replace hquote : c ≠ '"' := hquote
    replace hbackslash : c ≠ '\\' := hbackslash
    split
    case isTrue hcontrol => exact run_unit hcontrol b done
    case isFalse hplain =>
      simp [Reader.run, Reader.step, Spelling.step, Spelling.push, hquote, hbackslash, hplain]
  all_goals rfl

lemma run_flatMap_escapeChar (b : Builder) (done text : List Char) :
    Reader.run ⟨.string { done }, b⟩ (text.flatMap escapeChar) =
      some ⟨.string { done := text.reverse ++ done }, b⟩ := by
  induction text generalizing done with
  | nil => rfl
  | cons c text ih =>
    have hc := run_escapeChar b done c
    simp only [Reader.run] at hc ih ⊢
    rw [List.flatMap_cons, List.foldlM_append, hc]
    simpa using ih (c :: done)

/-- A printed string is one token. -/
lemma outcome_stringText (b : Builder) (s : String) (rest : List Char) :
    Reader.outcome ⟨.between, b⟩ (stringText s ++ rest) =
      (b.take (.text (some s))).bind fun b => Reader.outcome ⟨.between, b⟩ rest := by
  have hopen : Reader.step ⟨.between, b⟩ '"' = some ⟨.string {}, b⟩ := rfl
  have htext : Spelling.text? { done := s.toList.reverse } = some s := by
    simp [Spelling.text?]
  have hclose : Reader.step ⟨.string { done := s.toList.reverse }, b⟩ '"' =
      (b.take (.text (some s))).bind fun b => some ⟨.between, b⟩ := by
    rw [← htext]
    rfl
  -- The characters are kept in reverse until the closing quote.
  have hrun := run_flatMap_escapeChar b [] s.toList
  rw [List.append_nil] at hrun
  rw [stringText, List.cons_append, Reader.outcome_cons, hopen, Option.bind_some,
    List.append_assoc, Reader.outcome_append hrun, List.singleton_append, Reader.outcome_cons,
    hclose, Option.bind_assoc]
  rfl

/-! ## Words and numbers -/

/-- A word is one token, the value that it denotes. -/
lemma outcome_word {b b' : Builder} {word rest : List Char} {v : Json}
    (hv : wordValue? word = some v) (hb : b.take (.value v) = some b') (hrest : Breaks rest) :
    Reader.outcome ⟨.between, b⟩ (word ++ rest) = Reader.outcome ⟨.between, b'⟩ rest := by
  have hrun : Reader.run ⟨.between, b⟩ word = some ⟨.word word.reverse, b⟩ := by
    unfold wordValue? at hv
    split at hv
    · subst word
      rfl
    · split at hv
      · subst word
        rfl
      · split at hv
        · subst word
          rfl
        · cases hv
  rw [Reader.outcome_append hrun]
  refine Reader.outcome_of_settle hrest (by simp) ?_
  simp [Reader.settle, hv, hb]

lemma run_number (b : Builder) (seen : List Char) {text : List Char}
    (h : ∀ c ∈ text, isNumberChar c = true) :
    Reader.run ⟨.number seen, b⟩ text = some ⟨.number (text.reverse ++ seen), b⟩ := by
  induction text generalizing seen with
  | nil => rfl
  | cons c text ih =>
    have hc : isNumberChar c = true := h c (by simp)
    have hstep : Reader.step ⟨.number seen, b⟩ c = some ⟨.number (c :: seen), b⟩ := by
      simp [Reader.step, hc]
    have hrest := ih (c :: seen) fun d hd => h d (by simp [hd])
    simp only [Reader.run] at hrest ⊢
    rw [List.foldlM_cons, hstep]
    simpa using hrest

/-- A number is one token, the value that it denotes. -/
lemma outcome_number {b b' : Builder} {text rest : List Char} {v : Json}
    (hv : Number.read? text = some v) (hb : b.take (.value v) = some b') (hrest : Breaks rest) :
    Reader.outcome ⟨.between, b⟩ (text ++ rest) = Reader.outcome ⟨.between, b'⟩ rest := by
  obtain ⟨c, digits, rfl, hc, hdigits⟩ := numberChars_of_read? hv
  have hstep : Reader.step ⟨.between, b⟩ c = some ⟨.number [c], b⟩ := by
    have hspace : isSpace c = false := by
      by_contra hspace
      simp only [isSpace, Bool.not_eq_false, Bool.or_eq_true, decide_eq_true_eq] at hspace
      rcases hspace with ((rfl | rfl) | rfl) | rfl <;> simp at hc
    have hquote : c ≠ '"' := by
      rintro rfl
      simp at hc
    simp [Reader.step, Reader.stepBetween, hspace, hquote, hc]
  have hrun : Reader.run ⟨.between, b⟩ (c :: digits) = some ⟨.number (c :: digits).reverse, b⟩ := by
    have hdigits := run_number b [c] hdigits
    simp only [Reader.run] at hdigits ⊢
    rw [List.foldlM_cons, hstep]
    simpa using hdigits
  rw [Reader.outcome_append hrun]
  refine Reader.outcome_of_settle hrest (by simp) ?_
  simp [Reader.settle, hv, hb]

/-! ## Values -/

/-- A value begins here. -/
def Expect.isValue : Expect → Bool
  | .value | .firstValue => true
  | _ => false

lemma takeClose_eq_none {t : Token} (harray : t ≠ .closeArray) (hobject : t ≠ .closeObject)
    (frames : List Frame) : Builder.takeClose frames t = none := by
  cases t <;> simp_all [Builder.takeClose]

/-- A value begins with any token that ends no container. -/
lemma take_of_isValue {expect : Expect} {t : Token} (hexpect : expect.isValue = true)
    (harray : t ≠ .closeArray) (hobject : t ≠ .closeObject) (frames : List Frame) :
    Builder.take ⟨frames, expect⟩ t = Builder.takeValue frames t := by
  cases expect with
  | value => rfl
  | firstValue => simp [Builder.take, takeClose_eq_none harray hobject]
  | _ => cases hexpect

lemma closed_of_room {frames : List Frame} {room : Nat}
    (hroom : frames.length + (room + 1) ≤ depthLimit) (v : Json) :
    Builder.closed frames v = Builder.put frames v := by
  rw [Builder.closed, if_pos (by omega)]

/-- Wherever a value begins, with room for `room` more containers, what is read for the value
printed at `depth` takes its place. -/
def Reads (room depth : Nat) (v : Json) : Prop :=
  ∀ {frames : List Frame} {expect : Expect} {rest : List Char}, expect.isValue = true →
    frames.length + room ≤ depthLimit → Breaks rest →
      Reader.outcome ⟨.between, ⟨frames, expect⟩⟩ (prettyText depth v ++ rest) =
        Reader.outcome ⟨.between, .put frames v.reread⟩ rest

lemma breaks_newline (depth : Nat) (rest : List Char) : Breaks (newline depth ++ rest) :=
  breaks_cons (by decide) (by decide)

lemma breaks_prettyItems {rest : List Char} (hrest : Breaks rest) (depth : Nat)
    (items : List Json) : Breaks (prettyItems depth items ++ rest) := by
  cases items with
  | nil => exact hrest
  | cons v items => exact breaks_cons (by decide) (by decide)

/-- The items after the first go on top of those before. -/
lemma outcome_prettyItems {room depth : Nat} {items before : List Json} {frames : List Frame}
    {rest : List Char} (h : ∀ v ∈ items, Reads room depth v)
    (hroom : frames.length + (room + 1) ≤ depthLimit) (hrest : Breaks rest) :
    Reader.outcome ⟨.between, ⟨.items before :: frames, .separator⟩⟩
        (prettyItems depth items ++ rest) =
      Reader.outcome
        ⟨.between, ⟨.items ((items.map reread).reverse ++ before) :: frames, .separator⟩⟩ rest := by
  induction items generalizing before with
  | nil => rfl
  | cons v items ih =>
    have hcomma : Builder.take ⟨.items before :: frames, .separator⟩ .comma =
        some ⟨.items before :: frames, .value⟩ := rfl
    have hv : Reads room depth v := h v (by simp)
    have hroom' : (Frame.items before :: frames).length + room ≤ depthLimit := by
      simp only [List.length_cons]
      omega
    rw [prettyItems, List.cons_append, Reader.outcome_punctuation (t := .comma) _ _ rfl, hcomma,
      Option.bind_some, List.append_assoc, List.append_assoc, Reader.outcome_newline,
      hv rfl hroom' (breaks_prettyItems hrest depth items)]
    have hitems : ∀ w ∈ items, Reads room depth w := fun w hw => h w (by simp [hw])
    simpa [Builder.put] using ih hitems

lemma breaks_prettyMembers {rest : List Char} (hrest : Breaks rest) (depth : Nat)
    (members : List (String × Json)) : Breaks (prettyMembers depth members ++ rest) := by
  cases members with
  | nil => exact hrest
  | cons member members => exact breaks_cons (by decide) (by decide)

/-- A key with its value goes on top of the members before. -/
lemma outcome_member {room depth : Nat} {k key : String} {v : Json}
    {before : List (String × Json)} {frames : List Frame} {expect : Expect} {rest : List Char}
    (hv : Reads room depth v) (hexpect : expect = .key ∨ expect = .firstKey)
    (hroom : frames.length + (room + 1) ≤ depthLimit) (hrest : Breaks rest) :
    Reader.outcome ⟨.between, ⟨.members before true key :: frames, expect⟩⟩
        (stringText k ++ ':' :: ' ' :: (prettyText depth v ++ rest)) =
      Reader.outcome
        ⟨.between, ⟨.members ((k, v.reread) :: before) true "" :: frames, .separator⟩⟩ rest := by
  have hkey : Builder.take ⟨.members before true key :: frames, expect⟩ (.text (some k)) =
      some ⟨.members before true k :: frames, .colon⟩ := by
    rcases hexpect with rfl | rfl <;> rfl
  have hcolon : Builder.take ⟨.members before true k :: frames, .colon⟩ .colon =
      some ⟨.members before true k :: frames, .value⟩ := rfl
  have hspace (text : List Char) (b : Builder) :
      Reader.outcome ⟨.between, b⟩ (' ' :: text) = Reader.outcome ⟨.between, b⟩ text :=
    Reader.outcome_spaces b 1 text
  have hroom' : (Frame.members before true k :: frames).length + room ≤ depthLimit := by
    simp only [List.length_cons]
    omega
  rw [outcome_stringText, hkey, Option.bind_some,
    Reader.outcome_punctuation (t := .colon) _ _ rfl, hcolon, Option.bind_some, hspace,
    hv rfl hroom' hrest]
  rfl

/-- The members after the first go on top of those before. -/
lemma outcome_prettyMembers {room depth : Nat} {members before : List (String × Json)}
    {frames : List Frame} {rest : List Char} (h : ∀ member ∈ members, Reads room depth member.2)
    (hroom : frames.length + (room + 1) ≤ depthLimit) (hrest : Breaks rest) :
    Reader.outcome ⟨.between, ⟨.members before true "" :: frames, .separator⟩⟩
        (prettyMembers depth members ++ rest) =
      Reader.outcome
        ⟨.between, ⟨.members ((rereadMembers members).reverse ++ before) true "" :: frames,
          .separator⟩⟩ rest := by
  induction members generalizing before with
  | nil => rfl
  | cons member members ih =>
    obtain ⟨k, v⟩ := member
    have hcomma : Builder.take ⟨.members before true "" :: frames, .separator⟩ .comma =
        some ⟨.members before true "" :: frames, .key⟩ := rfl
    have hv : Reads room depth v := h (k, v) (by simp)
    have hmembers : ∀ member ∈ members, Reads room depth member.2 :=
      fun member hmember => h member (by simp [hmember])
    rw [prettyMembers, List.cons_append, Reader.outcome_punctuation (t := .comma) _ _ rfl, hcomma,
      Option.bind_some, List.append_assoc, List.append_assoc, Reader.outcome_newline,
      List.cons_append, List.cons_append, List.append_assoc,
      outcome_member hv (.inl rfl) hroom (breaks_prettyMembers hrest depth members)]
    simpa [rereadMembers] using ih hmembers

/-- A value that is a token of its own. -/
lemma reads_of_take {room depth : Nat} {v : Json}
    (h : ∀ {b b' : Builder} {rest : List Char}, b.take (.value v.reread) = some b' → Breaks rest →
      Reader.outcome ⟨.between, b⟩ (prettyText depth v ++ rest) =
        Reader.outcome ⟨.between, b'⟩ rest) : Reads room depth v := by
  intro frames expect rest hexpect _ hrest
  have htake : Builder.take ⟨frames, expect⟩ (.value v.reread) = some (.put frames v.reread) :=
    take_of_isValue hexpect (by simp) (by simp) frames
  exact h htake hrest

lemma reads_str (room depth : Nat) (s : String) : Reads room depth (.str s) := by
  intro frames expect rest hexpect _ _
  have htake : Builder.take ⟨frames, expect⟩ (.text (some s)) = some (.put frames (.str s)) :=
    take_of_isValue hexpect (by simp) (by simp) frames
  rw [prettyText, outcome_stringText, htake, Option.bind_some]
  rfl

lemma reads_arr {room depth : Nat} {items : List Json}
    (h : ∀ v ∈ items, Reads room (depth + 1) v) : Reads (room + 1) depth (.arr items) := by
  intro frames expect rest hexpect hroom hrest
  have hopen : Builder.take ⟨frames, expect⟩ .openArray =
      some ⟨.items [] :: frames, .firstValue⟩ :=
    take_of_isValue hexpect (by simp) (by simp) frames
  cases items with
  | nil =>
    have hclose : Builder.take ⟨.items [] :: frames, .firstValue⟩ .closeArray =
        some (.put frames (.arr [])) := by
      rw [← closed_of_room hroom]
      rfl
    rw [prettyText, List.cons_append, Reader.outcome_punctuation (t := .openArray) _ _ rfl, hopen,
      Option.bind_some, List.singleton_append,
      Reader.outcome_punctuation (t := .closeArray) _ _ rfl, hclose, Option.bind_some]
    rfl
  | cons v items =>
    have hv : Reads room (depth + 1) v := h v (by simp)
    have hitems : ∀ w ∈ items, Reads room (depth + 1) w := fun w hw => h w (by simp [hw])
    have hroom' : (Frame.items [] :: frames).length + room ≤ depthLimit := by
      simp only [List.length_cons]
      omega
    -- Each item is followed by a comma or by the line of the closing bracket.
    have hend : Breaks (newline depth ++ ']' :: rest) := breaks_newline depth _
    have hclose : Builder.take
        ⟨.items ((items.map reread).reverse ++ [v.reread]) :: frames, .separator⟩ .closeArray =
          some (.put frames (reread (.arr (v :: items)))) := by
      rw [← closed_of_room hroom, reread_arr]
      simp [Builder.take, Builder.takeClose]
    have htext : prettyText depth (.arr (v :: items)) ++ rest =
        '[' :: (newline (depth + 1) ++ (prettyText (depth + 1) v ++
          (prettyItems (depth + 1) items ++ (newline depth ++ ']' :: rest)))) := by
      simp [prettyText]
    rw [htext, Reader.outcome_punctuation (t := .openArray) _ _ rfl, hopen, Option.bind_some,
      Reader.outcome_newline, hv rfl hroom' (breaks_prettyItems hend _ _), Builder.put,
      outcome_prettyItems hitems hroom hend, Reader.outcome_newline,
      Reader.outcome_punctuation (t := .closeArray) _ _ rfl, hclose, Option.bind_some]

lemma reads_obj {room depth : Nat} {members : List (String × Json)}
    (h : ∀ member ∈ members, Reads room (depth + 1) member.2) :
    Reads (room + 1) depth (.obj members) := by
  intro frames expect rest hexpect hroom hrest
  have hopen : Builder.take ⟨frames, expect⟩ .openObject =
      some ⟨.members [] true "" :: frames, .firstKey⟩ :=
    take_of_isValue hexpect (by simp) (by simp) frames
  cases members with
  | nil =>
    have hclose : Builder.take ⟨.members [] true "" :: frames, .firstKey⟩ .closeObject =
        some (.put frames (.obj [])) := by
      rw [← closed_of_room hroom]
      rfl
    rw [prettyText, List.cons_append, Reader.outcome_punctuation (t := .openObject) _ _ rfl,
      hopen, Option.bind_some, List.singleton_append,
      Reader.outcome_punctuation (t := .closeObject) _ _ rfl, hclose, Option.bind_some]
    rfl
  | cons member members =>
    obtain ⟨k, v⟩ := member
    have hv : Reads room (depth + 1) v := h (k, v) (by simp)
    have hmembers : ∀ member ∈ members, Reads room (depth + 1) member.2 :=
      fun member hmember => h member (by simp [hmember])
    have hend : Breaks (newline depth ++ '\x7d' :: rest) := breaks_newline depth _
    have hclose : Builder.take
        ⟨.members ((rereadMembers members).reverse ++ [(k, v.reread)]) true "" :: frames,
          .separator⟩ .closeObject = some (.put frames (reread (.obj ((k, v) :: members)))) := by
      rw [← closed_of_room hroom, reread, rereadMembers]
      simp [Builder.take, Builder.takeClose]
    have htext : prettyText depth (.obj ((k, v) :: members)) ++ rest =
        '\x7b' :: (newline (depth + 1) ++ (stringText k ++ ':' :: ' ' ::
          (prettyText (depth + 1) v ++
            (prettyMembers (depth + 1) members ++ (newline depth ++ '\x7d' :: rest))))) := by
      simp [prettyText]
    rw [htext, Reader.outcome_punctuation (t := .openObject) _ _ rfl, hopen, Option.bind_some,
      Reader.outcome_newline,
      outcome_member hv (.inr rfl) hroom (breaks_prettyMembers hend _ _),
      outcome_prettyMembers hmembers hroom hend, Reader.outcome_newline,
      Reader.outcome_punctuation (t := .closeObject) _ _ rfl, hclose, Option.bind_some]

/-- A value that has a text: every part can be read, every number is one that JSON has, and no
more than `room` containers stand inside each other. -/
inductive Legible : Nat → Json → Prop where
  | null {room : Nat} : Legible room .null
  | bool {room : Nat} (b : Bool) : Legible room (.bool b)
  | num {room : Nat} {n : Number} (valid : n.Valid) : Legible room (.num n)
  | str {room : Nat} (s : String) : Legible room (.str s)
  | arr {room : Nat} {items : List Json} (items_legible : ∀ v ∈ items, Legible room v) :
      Legible (room + 1) (.arr items)
  | obj {room : Nat} {members : List (String × Json)}
      (members_legible : ∀ member ∈ members, Legible room member.2) :
      Legible (room + 1) (.obj members)

/-- What is read again is legible too. -/
lemma Legible.reread {room : Nat} {v : Json} (h : Legible room v) : Legible room v.reread := by
  induction h with
  | null => exact .null
  | bool b => exact .bool b
  | num hn => exact .num hn.reread
  | str s => exact .str s
  | arr _ ih =>
    rw [reread_arr]
    refine .arr fun w hw => ?_
    obtain ⟨v, hv, rfl⟩ := List.mem_map.1 hw
    exact ih v hv
  | obj _ ih =>
    rw [reread_obj]
    refine .obj fun member hmember => ?_
    obtain ⟨member', hmember', rfl⟩ := List.mem_map.1 hmember
    exact ih member' hmember'

/-- A legible value is read where it is printed. -/
lemma Legible.reads {room : Nat} {v : Json} (h : Legible room v) (depth : Nat) :
    Reads room depth v := by
  induction h generalizing depth with
  | null => exact reads_of_take fun hb hrest => outcome_word rfl hb hrest
  | bool b => cases b <;> exact reads_of_take fun hb hrest => outcome_word rfl hb hrest
  | num hn =>
    refine reads_of_take fun hb hrest => ?_
    rw [prettyText]
    exact outcome_number (Number.read?_text hn) hb hrest
  | str s => exact reads_str _ depth s
  | arr _ ih => exact reads_arr fun v hv => ih v hv (depth + 1)
  | obj _ ih => exact reads_obj fun member hmember => ih member hmember (depth + 1)

/-- White space may follow the text of a legible value. -/
lemma parse_append {v : Json} {ending : List Char} (h : Legible depthLimit v)
    (hbreaks : Breaks ending)
    (hending : Reader.outcome ⟨.between, .put [] v.reread⟩ ending = some (.put [] v.reread)) :
    parse (v.pretty ++ String.ofList ending) = some v.reread := by
  have hreads : Reader.outcome .start (prettyText 0 v ++ ending) =
      Reader.outcome ⟨.between, .put [] v.reread⟩ ending :=
    h.reads 0 rfl (by simp) hbreaks
  have hparse : parse (v.pretty ++ String.ofList ending) =
      (Reader.outcome .start (prettyText 0 v ++ ending)).bind Builder.document? := by
    simp [parse, pretty, Reader.outcome, Option.bind_assoc]
  rw [hparse, hreads, hending]
  rfl

/-- Reading the text of a legible value gives the value, with its doubles read again. -/
theorem parse_pretty {v : Json} (h : Legible depthLimit v) : parse v.pretty = some v.reread := by
  have hread := parse_append h breaks_nil rfl
  rwa [String.ofList_nil, String.append_empty] at hread

/-- The text of a legible value may be a line of its own. -/
lemma parse_pretty_line {v : Json} (h : Legible depthLimit v) :
    parse (v.pretty ++ "\n") = some v.reread :=
  parse_append h (breaks_newline 0 []) (Reader.outcome_newline _ 0 [])

/-! ## Parts that can be read -/

lemma isSome_canonicalItems? {items : List Json} (h : ∀ v ∈ items, v.readable = true) :
    (canonicalItems? items).isSome = true := by
  induction items with
  | nil => rfl
  | cons v items ih =>
    have hv : v.readable = true := h v (by simp)
    have hitems := ih fun w hw => h w (by simp [hw])
    obtain ⟨w, hw⟩ := Option.isSome_iff_exists.1 hv
    obtain ⟨ws, hws⟩ := Option.isSome_iff_exists.1 hitems
    simp [canonicalItems?, hw, hws]

lemma isSome_canonicalMembers? {members : List (String × Json)}
    (h : ∀ member ∈ members, member.2.readable = true) :
    (canonicalMembers? members).isSome = true := by
  induction members with
  | nil => rfl
  | cons member members ih =>
    obtain ⟨k, v⟩ := member
    have hv : v.readable = true := h (k, v) (by simp)
    have hmembers := ih fun w hw => h w (by simp [hw])
    obtain ⟨w, hw⟩ := Option.isSome_iff_exists.1 hv
    obtain ⟨ws, hws⟩ := Option.isSome_iff_exists.1 hmembers
    simp [canonicalMembers?, hw, hws]

/-- Every part of a legible value can be read. -/
lemma Legible.readable {room : Nat} {v : Json} (h : Legible room v) : v.readable = true := by
  induction h with
  | arr _ ih => simpa [Json.readable, canonical?] using isSome_canonicalItems? ih
  | obj _ ih => simpa [Json.readable, canonical?] using isSome_canonicalMembers? ih
  | _ => rfl

end Atelier.Json

/-
What a text can denote.

A value that is read has no more containers inside each other than the limit allows: one that
stands deeper is unreadable, and its numbers are numbers that JSON has
(`bounded_of_parse`).  The reader keeps the rule that what a container holds leaves room for
the containers around it (`Builder.Fits`), one lemma for each kind of token.
-/
import Mathlib.Tactic.Common
import Atelier.Proofs.Json.Reading

namespace Atelier.Json

/-! ## Values with parts that cannot be read -/

/-- A value whose readable parts are legible. -/
inductive Bounded : Nat → Json → Prop where
  | null {room : Nat} : Bounded room .null
  | bool {room : Nat} (b : Bool) : Bounded room (.bool b)
  | num {room : Nat} {n : Number} (valid : n.Valid) : Bounded room (.num n)
  | str {room : Nat} (s : String) : Bounded room (.str s)
  | arr {room : Nat} {items : List Json} (items_bounded : ∀ v ∈ items, Bounded room v) :
      Bounded (room + 1) (.arr items)
  | obj {room : Nat} {members : List (String × Json)}
      (members_bounded : ∀ member ∈ members, Bounded room member.2) :
      Bounded (room + 1) (.obj members)
  | unreadable {room : Nat} : Bounded room .unreadable

/-- Words and numbers are bounded wherever they stand. -/
lemma bounded_of_wordValue? {word : List Char} {v : Json} (h : wordValue? word = some v)
    (room : Nat) : Bounded room v := by
  unfold wordValue? at h
  split at h
  · obtain rfl := Option.some.inj h
    exact .null
  · split at h
    · obtain rfl := Option.some.inj h
      exact .bool true
    · split at h
      · obtain rfl := Option.some.inj h
        exact .bool false
      · cases h

lemma bounded_ofNumeral (numeral : Numeral) (room : Nat) :
    Bounded room (Number.ofNumeral numeral) := by
  simp only [Number.ofNumeral]
  split
  · rename_i h
    have hlt : digitsValue numeral.whole < UInt64.size := by
      simp only [Bool.and_eq_true, decide_eq_true_eq] at h
      exact h.2
    exact .num hlt
  · split
    · rename_i h
      have hvalid : 0 < digitsValue numeral.whole ∧
          digitsValue numeral.whole ≤ UInt64.size / 2 := by
        simp only [Bool.and_eq_true, decide_eq_true_eq] at h
        exact ⟨Nat.pos_of_ne_zero h.1.2, h.2⟩
      exact .num hvalid
    · split
      · rename_i hfinite
        exact .num hfinite
      · exact .unreadable

lemma bounded_of_read? {text : List Char} {v : Json} (h : Number.read? text = some v)
    (room : Nat) : Bounded room v := by
  simp only [Number.read?, Option.bind_eq_bind, Option.bind_eq_some_iff,
    Option.ite_none_left_eq_some] at h
  obtain ⟨numeral, -, -, hv⟩ := h
  obtain rfl := Option.some.inj hv
  exact bounded_ofNumeral numeral room

/-! ## Containers that are still open -/

/-- What a container holds so far leaves room for `room` containers in each part. -/
def Frame.Holds (room : Nat) : Frame → Prop
  | .items before => ∀ v ∈ before, Bounded room v
  | .members before _ _ => ∀ member ∈ before, Bounded room member.2

/-- What each open container holds leaves room for the containers around it. -/
def FramesFit : List Frame → Prop
  | [] => True
  | frame :: around => frame.Holds (depthLimit - (around.length + 1)) ∧ FramesFit around

/-- A token whose value, if it has one, has room everywhere. -/
def Token.Flat : Token → Prop
  | .value v => ∀ room, Bounded room v
  | _ => True

namespace Builder

/-- What has been read so far fits into the limit. -/
structure Fits (b : Builder) : Prop where
  frames : FramesFit b.frames
  document : ∀ v, b.expect = .nothing v → Bounded depthLimit v

variable {frames : List Frame} {v : Json}

lemma fits_put (hframes : FramesFit frames) (hv : Bounded (depthLimit - frames.length) v) :
    (put frames v).Fits := by
  cases frames with
  | nil =>
    refine ⟨trivial, fun w hw => ?_⟩
    obtain rfl : v = w := by simpa [put] using hw
    exact hv
  | cons frame around =>
    obtain ⟨hframe, haround⟩ := hframes
    cases frame with
    | items before =>
      refine ⟨⟨fun w hw => ?_, haround⟩, by simp [put]⟩
      rcases List.mem_cons.1 hw with rfl | hw
      · exact hv
      · exact hframe w hw
    | members before sound key =>
      refine ⟨⟨fun member hmember => ?_, haround⟩, by simp [put]⟩
      rcases List.mem_cons.1 hmember with rfl | hmember
      · exact hv
      · exact hframe member hmember

/-- A container that ends has its place, unless it stands too deep. -/
lemma fits_closed {around : List Frame} (haround : FramesFit around)
    (hv : ∀ room, depthLimit - (around.length + 1) = room → around.length < depthLimit →
      Bounded (room + 1) v) : (closed around v).Fits := by
  unfold closed
  refine fits_put haround ?_
  split
  · rename_i hroom
    have hbounded := hv _ rfl hroom
    rwa [show depthLimit - (around.length + 1) + 1 = depthLimit - around.length by omega]
      at hbounded
  · exact .unreadable

variable {t : Token} {b b' : Builder}

lemma fits_takeValue (hframes : FramesFit frames) (ht : t.Flat) (h : takeValue frames t = some b') :
    b'.Fits := by
  cases t with
  | openArray =>
    obtain rfl := Option.some.inj h
    exact ⟨⟨by simp [Frame.Holds], hframes⟩, by simp⟩
  | openObject =>
    obtain rfl := Option.some.inj h
    exact ⟨⟨by simp [Frame.Holds], hframes⟩, by simp⟩
  | text s =>
    cases s with
    | some s =>
      obtain rfl := Option.some.inj h
      exact fits_put hframes (.str s)
    | none =>
      obtain rfl := Option.some.inj h
      exact fits_put hframes .unreadable
  | value v =>
    obtain rfl := Option.some.inj h
    exact fits_put hframes (ht _)
  | closeArray | closeObject | colon | comma => cases h

lemma fits_takeKey (hframes : FramesFit frames) (h : takeKey frames t = some b') : b'.Fits := by
  unfold takeKey at h
  split at h
  · obtain rfl := Option.some.inj h
    exact ⟨hframes, by simp⟩
  · obtain rfl := Option.some.inj h
    exact ⟨hframes, by simp⟩
  · cases h

lemma fits_takeClose (hframes : FramesFit frames) (h : takeClose frames t = some b') :
    b'.Fits := by
  unfold takeClose at h
  split at h
  · obtain rfl := Option.some.inj h
    obtain ⟨hbefore, haround⟩ := hframes
    refine fits_closed haround fun room hroom _ => .arr fun v hv => ?_
    rw [← hroom]
    exact hbefore v (List.mem_reverse.1 hv)
  · obtain rfl := Option.some.inj h
    obtain ⟨hbefore, haround⟩ := hframes
    refine fits_closed haround fun room hroom _ => ?_
    split
    · refine .obj fun member hmember => ?_
      rw [← hroom]
      exact hbefore member (List.mem_reverse.1 hmember)
    · exact .unreadable
  · cases h

/-- Every token keeps what has been read within the limit. -/
lemma Fits.take (hb : b.Fits) (ht : t.Flat) (h : b.take t = some b') : b'.Fits := by
  have hframes := hb.frames
  unfold Builder.take at h
  split at h
  · exact fits_takeValue hframes ht h
  · rw [Option.orElse_eq_orElse, Option.orElse_eq_or] at h
    rcases Option.or_eq_some_iff.1 h with hclose | ⟨-, hvalue⟩
    · exact fits_takeClose hframes hclose
    · exact fits_takeValue hframes ht hvalue
  · exact fits_takeKey hframes h
  · rw [Option.orElse_eq_orElse, Option.orElse_eq_or] at h
    rcases Option.or_eq_some_iff.1 h with hclose | ⟨-, hkey⟩
    · exact fits_takeClose hframes hclose
    · exact fits_takeKey hframes hkey
  · split at h
    · obtain rfl := Option.some.inj h
      exact ⟨hframes, by simp⟩
    · cases h
  · split at h
    · rename_i hitems
      obtain rfl := Option.some.inj h
      exact ⟨hframes, by simp⟩
    · obtain rfl := Option.some.inj h
      exact ⟨hframes, by simp⟩
    · exact fits_takeClose hframes h
  · cases h

end Builder

/-! ## Texts -/

namespace Reader

variable {r r' : Reader} {b : Builder}

lemma fits_settle (hr : r.builder.Fits) (h : r.settle = some b) : b.Fits := by
  unfold settle at h
  split at h
  · obtain rfl := Option.some.inj h
    exact hr
  · obtain ⟨v, hv, htake⟩ := Option.bind_eq_some_iff.1 h
    exact hr.take (t := .value v) (bounded_of_wordValue? hv) htake
  · obtain ⟨v, hv, htake⟩ := Option.bind_eq_some_iff.1 h
    exact hr.take (t := .value v) (bounded_of_read? hv) htake
  · cases h

lemma fits_stepBetween {c : Char} (hb : b.Fits) (h : stepBetween b c = some r') :
    r'.builder.Fits := by
  unfold stepBetween at h
  split at h
  · obtain rfl := Option.some.inj h
    exact hb
  · split at h
    · obtain rfl := Option.some.inj h
      exact hb
    · split at h
      · obtain rfl := Option.some.inj h
        exact hb
      · split at h
        · obtain rfl := Option.some.inj h
          exact hb
        · obtain ⟨t, ht, hrest⟩ := Option.bind_eq_some_iff.1 h
          obtain ⟨b', hb', hr'⟩ := Option.bind_eq_some_iff.1 hrest
          obtain rfl := Option.some.inj hr'
          refine hb.take ?_ hb'
          -- Punctuation has no value.
          unfold punctuation? at ht
          split at ht <;> cases ht <;> exact trivial

lemma fits_step {c : Char} (hr : r.builder.Fits) (h : r.step c = some r') : r'.builder.Fits := by
  unfold step at h
  split at h
  · exact fits_stepBetween hr h
  · split at h
    · obtain rfl := Option.some.inj h
      exact hr
    · obtain ⟨b, hb, hrest⟩ := Option.bind_eq_some_iff.1 h
      exact fits_stepBetween (fits_settle hr hb) hrest
  · split at h
    · obtain rfl := Option.some.inj h
      exact hr
    · obtain ⟨b, hb, hrest⟩ := Option.bind_eq_some_iff.1 h
      exact fits_stepBetween (fits_settle hr hb) hrest
  · split at h
    · rename_i s _ _
      obtain ⟨b, hb, hrest⟩ := Option.bind_eq_some_iff.1 h
      obtain rfl := Option.some.inj hrest
      exact hr.take (t := .text s.text?) trivial hb
    · obtain ⟨s, -, hrest⟩ := Option.bind_eq_some_iff.1 h
      obtain rfl := Option.some.inj hrest
      exact hr

lemma fits_run {text : List Char} (hr : r.builder.Fits) (h : r.run text = some r') :
    r'.builder.Fits := by
  induction text generalizing r with
  | nil =>
    obtain rfl := Option.some.inj h
    exact hr
  | cons c text ih =>
    rw [run, List.foldlM_cons] at h
    obtain ⟨next, hnext, hrest⟩ := Option.bind_eq_some_iff.1 h
    exact ih (fits_step hr hnext) hrest

end Reader

/-- What a text denotes stays within the limit, but for parts that cannot be read. -/
theorem bounded_of_parse {text : String} {v : Json} (h : parse text = some v) :
    Bounded depthLimit v := by
  obtain ⟨r, hr, hrest⟩ := Option.bind_eq_some_iff.1 h
  obtain ⟨b, hb, hdocument⟩ := Option.bind_eq_some_iff.1 hrest
  have hstart : Reader.start.builder.Fits := ⟨trivial, by simp [Reader.start, Builder.start]⟩
  have hfits : b.Fits := Reader.fits_settle (Reader.fits_run hstart hr) hb
  refine hfits.document v ?_
  unfold Builder.document? at hdocument
  split at hdocument
  · rename_i w hexpect
    obtain rfl := Option.some.inj hdocument
    exact hexpect
  · cases hdocument

end Atelier.Json

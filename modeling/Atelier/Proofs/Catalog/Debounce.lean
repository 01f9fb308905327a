/-
Search input through any number of calls, at any times.

A call brings input or asks for a release (`Debounce.Call`).  What waits before a call is the
latest input, unless somebody has asked for it when it was due (`Debounce.pending_before_iff`).  So
the first who asks for the latest input when it is due gets it
(`Debounce.released?_eq_some_iff`), and what can be said about releases follows from this.
-/
import Mathlib.Tactic.Common
import Atelier.Catalog.Debounce

namespace Atelier.Debounce

/-! ## Calls -/

/-- What can be asked of waiting input.  The catalog that it is released into may be another one
each time. -/
inductive Call where
  | input (text : String) (now : ℕ)
  | poll (now : ℕ)
  | apply (c : Catalog) (now : ℕ)

/-- The time at which a call asks for a release.  Input does not ask. -/
def Call.asks? : Call → Option ℕ
  | .input .. => none
  | .poll now | .apply _ now => some now

/-- What waits after a call, and the text that the call releases.  A text that is released into a
catalog is what that searches for. -/
def turn (d : Debounce) : Call → Debounce × Option String
  | .input text now => (d.input text now, none)
  | .poll now => d.poll now
  | .apply c now =>
    let (d, c, released) := d.apply c now
    (d, if released then some c.search else none)

variable {d : Debounce} {call : Call} {text : String} {since now : ℕ}

/-- Whoever asks at the same time is told the same. -/
lemma turn_of_asks (d : Debounce) (h : call.asks? = some now) : d.turn call = d.poll now := by
  cases call with
  | input => cases h
  | poll =>
    obtain rfl := Option.some.inj h
    rfl
  | apply c =>
    obtain rfl := Option.some.inj h
    rw [turn, apply]
    rcases d.poll _ with ⟨d, _ | search⟩ <;> rfl

lemma poll_eq_some_iff :
    (d.poll now).2 = some text ↔
      ∃ since, d.pending = some (text, since) ∧ d.delay ≤ now - since := by
  unfold poll
  rcases d.pending with _ | ⟨waiting, at'⟩
  · simp
  · by_cases hdue : d.delay ≤ now - at' <;> simp [hdue]

/-- Input that is not due stays. -/
lemma pending_poll_eq_some_iff :
    (d.poll now).1.pending = some (text, since) ↔
      d.pending = some (text, since) ∧ now - since < d.delay := by
  unfold poll
  rcases hpending : d.pending with _ | ⟨waiting, at'⟩
  · simp [hpending]
  · by_cases hdue : d.delay ≤ now - at'
    · simp only [hdue, if_true, Option.some.injEq, Prod.mk.injEq, reduceCtorEq, false_iff]
      rintro ⟨⟨-, rfl⟩, hearly⟩
      omega
    · simp only [hdue, if_false, hpending, Option.some.injEq, Prod.mk.injEq]
      constructor
      · rintro ⟨rfl, rfl⟩
        exact ⟨⟨rfl, rfl⟩, by omega⟩
      · exact And.left

lemma delay_turn (d : Debounce) (call : Call) : (d.turn call).1.delay = d.delay := by
  have hpoll (now : ℕ) : (d.poll now).1.delay = d.delay := by
    unfold poll
    split
    · split <;> rfl
    · rfl
  cases call with
  | input => rfl
  | poll now => exact hpoll now
  | apply c now => rw [turn_of_asks d rfl, hpoll]

/-! ## Runs -/

/-- What waits before the call at a place. -/
def before (delay : ℕ) (calls : List Call) (place : ℕ) : Debounce :=
  (calls.take place).foldl (fun d call => (d.turn call).1) { delay }

/-- The text that the call at a place releases. -/
def released? (delay : ℕ) (calls : List Call) (place : ℕ) : Option String :=
  calls[place]?.bind fun call => ((before delay calls place).turn call).2

/-- The call at a place asks for a release. -/
def AsksAt (calls : List Call) (place now : ℕ) : Prop :=
  calls[place]?.bind Call.asks? = some now

/-- Before the call at place `i` the latest input is the one at place `j`. -/
structure Latest (calls : List Call) (i j : ℕ) (text : String) (since : ℕ) : Prop where
  lt : j < i
  input : calls[j]? = some (.input text since)
  last : ∀ k, j < k → k < i → ∀ text since, calls[k]? ≠ some (.input text since)

/-- The call at place `i` releases the input at place `j`. -/
def Releases (delay : ℕ) (calls : List Call) (i j : ℕ) : Prop :=
  ∃ text since, Latest calls i j text since ∧ released? delay calls i = some text

variable {delay : ℕ} {calls : List Call} {i j k : ℕ} {text' : String} {since' : ℕ}

lemma before_succ (h : calls[i]? = some call) :
    before delay calls (i + 1) = ((before delay calls i).turn call).1 := by
  rw [before, List.take_add_one, h, List.foldl_append]
  rfl

lemma delay_before (delay : ℕ) (calls : List Call) (i : ℕ) :
    (before delay calls i).delay = delay := by
  induction i with
  | zero => rfl
  | succ i ih =>
    cases hcall : calls[i]? with
    | none =>
      rw [before, List.take_add_one, hcall, Option.toList_none, List.append_nil]
      exact ih
    | some call => rw [before_succ hcall, delay_turn, ih]

lemma AsksAt.ne_input (h : AsksAt calls i now) : calls[i]? ≠ some (.input text since) := by
  intro hinput
  rw [AsksAt, hinput] at h
  cases h

lemma AsksAt.unique {now' : ℕ} (h : AsksAt calls i now) (h' : AsksAt calls i now') :
    now = now' :=
  Option.some.inj (h.symm.trans h')

/-- A call either brings input or asks. -/
lemma input_or_asksAt (h : i < calls.length) :
    (∃ text since, calls[i]? = some (.input text since)) ∨ ∃ now, AsksAt calls i now := by
  have hcall := List.getElem?_eq_getElem h
  cases hkind : calls[i] with
  | input text since => exact .inl ⟨text, since, by rw [hcall, hkind]⟩
  | poll now => exact .inr ⟨now, by rw [AsksAt, hcall, hkind]; rfl⟩
  | apply c now => exact .inr ⟨now, by rw [AsksAt, hcall, hkind]; rfl⟩

namespace Latest

lemma unique (h : Latest calls i j text since) (h' : Latest calls i k text' since') : j = k := by
  rcases Nat.lt_trichotomy j k with hlt | heq | hlt
  · exact absurd h'.input (h.last k hlt h'.lt _ _)
  · exact heq
  · exact absurd h.input (h'.last j hlt h.lt _ _)

lemma input_unique (h : Latest calls i j text since) (h' : Latest calls k j text' since') :
    text = text' ∧ since = since' := by
  have heq := h.input.symm.trans h'.input
  simpa using heq

/-- What is the latest input now has been so ever since it came. -/
lemma of_le (h : Latest calls i j text since) (hlt : j < k) (hle : k ≤ i) :
    Latest calls k j text since :=
  ⟨hlt, h.input, fun l hjl hlk => h.last l hjl (by omega)⟩

end Latest

/-- Input is the latest when it comes. -/
lemma latest_succ_of_input (h : calls[i]? = some (.input text' since')) :
    Latest calls (i + 1) j text since ↔ j = i ∧ text = text' ∧ since = since' := by
  constructor
  · intro hlatest
    have hj : j = i := by
      by_contra hne
      have hlt : j < i := by have := hlatest.lt; omega
      exact hlatest.last i hlt (by omega) _ _ h
    subst hj
    have heq := hlatest.input.symm.trans h
    simpa using heq
  · rintro ⟨rfl, rfl, rfl⟩
    exact ⟨by omega, h, fun k hjk hk => absurd hk (by omega)⟩

/-- Asking changes nothing about what the latest input is. -/
lemma latest_succ_of_asksAt (h : AsksAt calls i now) :
    Latest calls (i + 1) j text since ↔ Latest calls i j text since := by
  constructor
  · intro hlatest
    have hne : j ≠ i := by
      rintro rfl
      exact h.ne_input hlatest.input
    have hlt := hlatest.lt
    exact hlatest.of_le (by omega) (by omega)
  · intro hlatest
    refine ⟨by have := hlatest.lt; omega, hlatest.input, fun k hjk hk => ?_⟩
    rcases Nat.lt_succ_iff_lt_or_eq.1 hk with hlt | rfl
    · exact hlatest.last k hjk hlt
    · exact fun _ _ => h.ne_input

/-- What waits is the latest input, as long as nobody has asked for it when it was due. -/
lemma pending_before_iff (h : i ≤ calls.length) :
    (before delay calls i).pending = some (text, since) ↔
      ∃ j, Latest calls i j text since ∧
        ∀ k now, j < k → k < i → AsksAt calls k now → now - since < delay := by
  induction i with
  | zero =>
    constructor
    · intro hpending
      cases hpending
    · rintro ⟨j, hlatest, -⟩
      exact absurd hlatest.lt (Nat.not_lt_zero j)
  | succ i ih =>
    rcases input_or_asksAt h with ⟨text', since', hinput⟩ | ⟨now, hasks⟩
    · rw [before_succ hinput]
      constructor
      · intro hpending
        obtain ⟨rfl, rfl⟩ : text' = text ∧ since' = since := by
          simpa [turn, input] using hpending
        exact ⟨i, (latest_succ_of_input hinput).2 ⟨rfl, rfl, rfl⟩,
          fun k now hik hk => absurd hk (by omega)⟩
      · rintro ⟨j, hlatest, -⟩
        obtain ⟨-, rfl, rfl⟩ := (latest_succ_of_input hinput).1 hlatest
        rfl
    · obtain ⟨call, hcall, hnow⟩ := Option.bind_eq_some_iff.1 hasks
      rw [before_succ hcall, turn_of_asks _ hnow, pending_poll_eq_some_iff, delay_before,
        ih (by omega)]
      constructor
      · rintro ⟨⟨j, hlatest, hearly⟩, hnext⟩
        refine ⟨j, (latest_succ_of_asksAt hasks).2 hlatest, fun k now' hjk hk hasks' => ?_⟩
        rcases Nat.lt_succ_iff_lt_or_eq.1 hk with hlt | rfl
        · exact hearly k now' hjk hlt hasks'
        · rwa [hasks'.unique hasks]
      · rintro ⟨j, hlatest, hearly⟩
        have hlatest' := (latest_succ_of_asksAt hasks).1 hlatest
        exact ⟨⟨j, hlatest', fun k now' hjk hk => hearly k now' hjk (by omega)⟩,
          hearly i now hlatest'.lt (by omega) hasks⟩

/-- The latest input is released to whoever asks first when it is due. -/
lemma released?_eq_some_iff :
    released? delay calls i = some text ↔
      ∃ j since now, Latest calls i j text since ∧ AsksAt calls i now ∧ delay ≤ now - since ∧
        ∀ k now, j < k → k < i → AsksAt calls k now → now - since < delay := by
  by_cases hi : i < calls.length
  · rcases input_or_asksAt hi with ⟨text', since', hinput⟩ | ⟨now, hasks⟩
    · constructor
      · intro hreleased
        rw [released?, hinput] at hreleased
        cases hreleased
      · rintro ⟨j, since, now, -, hasks, -⟩
        exact absurd hinput hasks.ne_input
    · obtain ⟨call, hcall, hnow⟩ := Option.bind_eq_some_iff.1 hasks
      rw [released?, hcall, Option.bind_some, turn_of_asks _ hnow, poll_eq_some_iff, delay_before]
      simp only [pending_before_iff (Nat.le_of_lt hi)]
      constructor
      · rintro ⟨since, ⟨j, hlatest, hearly⟩, hdue⟩
        exact ⟨j, since, now, hlatest, hasks, hdue, hearly⟩
      · rintro ⟨j, since, now', hlatest, hasks', hdue, hearly⟩
        rw [hasks'.unique hasks] at hdue
        exact ⟨since, ⟨j, hlatest, hearly⟩, hdue⟩
  · have hnone : calls[i]? = none := List.getElem?_eq_none (by omega)
    constructor
    · intro hreleased
      rw [released?, hnone] at hreleased
      cases hreleased
    · rintro ⟨j, since, now, -, hasks, -⟩
      rw [AsksAt, hnone] at hasks
      cases hasks

/-! ## Releases -/

/-- The one who releases an input asks when it is due, and nobody did so before. -/
lemma Releases.first (h : Releases delay calls i j) (hlatest : Latest calls k j text since) :
    (∃ now, AsksAt calls i now ∧ delay ≤ now - since) ∧
      ∀ k now, j < k → k < i → AsksAt calls k now → now - since < delay := by
  obtain ⟨text', since', hlatest', hreleased⟩ := h
  obtain ⟨j', since'', now, hlatest'', hasks, hdue, hearly⟩ := released?_eq_some_iff.1 hreleased
  obtain rfl := hlatest''.unique hlatest'
  obtain ⟨-, rfl⟩ := hlatest.input_unique hlatest''
  exact ⟨⟨now, hasks, hdue⟩, hearly⟩

/-- An input is released once. -/
lemma Releases.unique (h : Releases delay calls i j) (h' : Releases delay calls k j) : i = k := by
  have hlt : ∀ {i k}, Releases delay calls i j → Releases delay calls k j → ¬ i < k := by
    intro i k h h' hik
    have ⟨text, since, hlatest, _⟩ := h
    obtain ⟨⟨now, hasks, hdue⟩, -⟩ := h.first hlatest
    have hearly := (h'.first hlatest).2 i now hlatest.lt hik hasks
    omega
  have hle := hlt h h'
  have hge := hlt h' h
  omega

/-- Input that is due when somebody asks has been released by then. -/
lemma Latest.exists_releases (h : Latest calls i j text since) (hasks : AsksAt calls i now)
    (hdue : delay ≤ now - since) : ∃ k ≤ i, Releases delay calls k j := by
  -- The first who asks when it is due gets it, so we go back to an earlier one as long as there is.
  induction i using Nat.strongRecOn generalizing now with
  | ind i ih =>
    by_cases hfirst : ∀ k now, j < k → k < i → AsksAt calls k now → now - since < delay
    · exact ⟨i, Nat.le_refl i, text, since, h,
        released?_eq_some_iff.2 ⟨j, since, now, h, hasks, hdue, hfirst⟩⟩
    · push Not at hfirst
      obtain ⟨k, now', hjk, hki, hasks', hdue'⟩ := hfirst
      obtain ⟨l, hlk, hreleases⟩ := ih k hki (h.of_le hjk (Nat.le_of_lt hki)) hasks' (by omega)
      exact ⟨l, by omega, hreleases⟩

/-- Whoever asks for the latest input at its time and the delay or later gets it, if nobody has
before. -/
lemma Latest.released?_eq (h : Latest calls i j text since) (hasks : AsksAt calls i now)
    (hdue : since + delay ≤ now) (hnone : ∀ k < i, ¬ Releases delay calls k j) :
    released? delay calls i = some text := by
  obtain ⟨k, hki, hreleases⟩ := h.exists_releases hasks (by omega : delay ≤ now - since)
  obtain rfl : k = i := by
    by_contra hne
    exact hnone k (by omega) hreleases
  obtain ⟨text', since', hlatest, hreleased⟩ := hreleases
  rwa [(h.input_unique hlatest).1]

/-- Releasing into a catalog is a new search, and asking in vain changes nothing. -/
lemma apply_eq (d : Debounce) (c : Catalog) (now : ℕ) :
    (d.apply c now).2 =
      match (d.turn (.apply c now)).2 with
      | some text => ({ c with search := text, page := 0, total := 0 }, true)
      | none => (c, false) := by
  have hasks : (Call.apply c now).asks? = some now := rfl
  rw [turn_of_asks d hasks, apply]
  rcases d.poll now with ⟨d, _ | search⟩ <;> rfl

/-- Whatever is typed and asked for, at whatever times: a release gives the latest input, the delay
or more after it came.  An input is released once at most, and not at all if another one comes
before that.  Who asks for the latest input when its time and the delay have passed gets it, unless
it is released already.  And a catalog starts a new search if a release is made into it; otherwise
it stays as it is. -/
theorem released_when_quiet (delay : ℕ) (calls : List Call) :
    (∀ i text, released? delay calls i = some text →
      ∃ j since now, Latest calls i j text since ∧ AsksAt calls i now ∧ delay ≤ now - since) ∧
    (∀ i k j, Releases delay calls i j → Releases delay calls k j → i = k) ∧
    (∀ j j' text since, j < j' → calls[j']? = some (.input text since) →
      (∀ i < j', ¬ Releases delay calls i j) → ∀ i, ¬ Releases delay calls i j) ∧
    (∀ i j text since now, Latest calls i j text since → AsksAt calls i now →
      since + delay ≤ now → (∀ k < i, ¬ Releases delay calls k j) →
        released? delay calls i = some text) ∧
    ∀ i c now, calls[i]? = some (.apply c now) →
      ((before delay calls i).apply c now).2 =
        match released? delay calls i with
        | some text => ({ c with search := text, page := 0, total := 0 }, true)
        | none => (c, false) := by
  refine ⟨fun i text hreleased => ?_, fun i k j => Releases.unique, ?_,
    fun i j text since now => Latest.released?_eq, fun i c now hcall => ?_⟩
  · obtain ⟨j, since, now, hlatest, hasks, hdue, -⟩ := released?_eq_some_iff.1 hreleased
    exact ⟨j, since, now, hlatest, hasks, hdue⟩
  · intro j j' text since hlt hinput hbefore i hreleases
    have ⟨text', since', hlatest, _⟩ := hreleases
    obtain ⟨⟨now, hasks, -⟩, -⟩ := hreleases.first hlatest
    rcases Nat.lt_trichotomy i j' with hi | rfl | hi
    · exact hbefore i hi hreleases
    · exact hasks.ne_input hinput
    · exact hlatest.last j' hlt hi text since hinput
  · rw [released?, hcall, Option.bind_some]
    exact apply_eq _ c now

/-- A word that is typed in two goes.  The clock is put back before it is asked for the last
time. -/
def typing : List Call :=
  [.input "pet" 0, .poll 300, .input "petri" 400, .poll 800,
    .apply { pageSize := 20, page := 2 } 950, .poll 100]

theorem released_when_quiet_typing :
    (∀ i, ¬ Releases 500 typing i 0) ∧ released? 500 typing 4 = some "petri" ∧
      released? 500 typing 5 = none ∧
      ((before 500 typing 4).apply { pageSize := 20, page := 2 } 950).2 =
        ({ pageSize := 20, search := "petri" }, true) := by
  obtain ⟨-, -, hsuperseded, hdue, happly⟩ := released_when_quiet 500 typing
  have hnone : ∀ i < 4, released? 500 typing i = none := by decide
  have hkept : ∀ i < 4, ∀ j, ¬ Releases 500 typing i j := by
    rintro i hi j ⟨text, since, -, hreleased⟩
    rw [hnone i hi] at hreleased
    cases hreleased
  have hlatest : Latest typing 4 2 "petri" 400 := by
    refine ⟨by decide, rfl, fun k hk hk' text since => ?_⟩
    obtain rfl : k = 3 := by omega
    intro heq
    cases heq
  have hreleased : released? 500 typing 4 = some "petri" :=
    hdue 4 2 "petri" 400 950 hlatest rfl (by decide) fun i hi => hkept i hi 2
  refine ⟨hsuperseded 0 2 "petri" 400 (by decide) rfl fun i hi => hkept i (by omega) 0, hreleased,
    by decide, ?_⟩
  rw [happly 4 _ 950 rfl, hreleased]

end Atelier.Debounce

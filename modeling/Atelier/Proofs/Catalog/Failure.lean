/-
What an answer of the service comes to, and what stays as it was when a call fails.

An answer brings a page (`Catalog.arrival`), or it does not for one of five reasons
(`Catalog.Failure`).  Only a page changes the catalog (`Catalog.receive_eq`).
-/
import Mathlib.Tactic.Common
import Atelier.Proofs.Catalog.Paging

namespace Atelier

/-- A body that holds an envelope reports an error by a code that is not empty. -/
def Envelope.Reports (body code message : String) : Prop :=
  ∃ envelope : Envelope Json, parse? Json.canonical? body = some envelope ∧
    envelope.errorCode = some code ∧ code ≠ "" ∧ envelope.message.getD "" = message

namespace Envelope

variable {α : Type} {envelope : Envelope α} {e : CatalogError}

lemma error?_eq_some_iff :
    envelope.error? = some e ↔
      ∃ code, envelope.errorCode = some code ∧ code ≠ "" ∧
        e = .backend code (envelope.message.getD "") := by
  unfold error?
  cases envelope.errorCode with
  | none => simp
  | some code =>
    simp only [Option.ite_none_left_eq_some, Option.some.injEq, String.isEmpty_iff]
    constructor
    · rintro ⟨hne, rfl⟩
      exact ⟨code, rfl, hne, rfl⟩
    · rintro ⟨code', rfl, hne, rfl⟩
      exact ⟨hne, rfl⟩

variable {body code message : String}

lemma reports_iff :
    Reports body code message ↔
      (parse? Json.canonical? body).bind error? = some (.backend code message) := by
  rw [Option.bind_eq_some_iff]
  constructor
  · rintro ⟨envelope, henvelope, hcode, hne, rfl⟩
    exact ⟨envelope, henvelope, error?_eq_some_iff.2 ⟨code, hcode, hne, rfl⟩⟩
  · rintro ⟨envelope, henvelope, herror⟩
    obtain ⟨code', hcode, hne, heq⟩ := error?_eq_some_iff.1 herror
    obtain ⟨rfl, rfl⟩ := CatalogError.backend.inj heq
    exact ⟨envelope, henvelope, hcode, hne, rfl⟩

lemma not_reports_of_eq_none (h : (parse? Json.canonical? body).bind error? = none)
    (code message : String) : ¬ Reports body code message := by
  intro hreports
  rw [reports_iff, h] at hreports
  cases hreports

lemma exists_reports_of_eq_some (h : (parse? Json.canonical? body).bind error? = some e) :
    ∃ code message, Reports body code message ∧ e = .backend code message := by
  obtain ⟨envelope, -, herror⟩ := Option.bind_eq_some_iff.1 h
  obtain ⟨code, -, -, rfl⟩ := error?_eq_some_iff.1 herror
  exact ⟨code, _, reports_iff.2 h, rfl⟩

end Envelope

namespace Catalog

/-! ## Answers -/

/-- The page that an answer brings, or why it brings none. -/
def arrival (answer : Except FetchError String) : Except CatalogError (Envelope (List Entry)) :=
  match answer with
  | .error e => .error (fetchError e)
  | .ok body =>
    match Envelope.parse? (Json.list? Entry.ofJson?) body with
    | none => .error (.json body)
    | some page =>
      match page.error? with
      | some e => .error e
      | none => .ok page

/-- Why an answer brings no page. -/
inductive Failure : Except FetchError String → CatalogError → Prop where
  | transport (message : String) :
    Failure (.error (.transport message)) (.fetch (.transport message))
  /-- The status is not one of success, and the body says why. -/
  | reported {status : ℕ} {body code message : String} (h : Envelope.Reports body code message) :
    Failure (.error (.status status body)) (.backend code message)
  /-- The status is all there is to say. -/
  | status {status : ℕ} {body : String} (h : ∀ code message, ¬ Envelope.Reports body code message) :
    Failure (.error (.status status body)) (.fetch (.status status body))
  | unreadable {body : String} (h : Envelope.parse? (Json.list? Entry.ofJson?) body = none) :
    Failure (.ok body) (.json body)
  /-- The body is that of a page, but it has a code. -/
  | refused {body code : String} {page : Envelope (List Entry)}
    (h : Envelope.parse? (Json.list? Entry.ofJson?) body = some page)
    (hcode : page.errorCode = some code) (hne : code ≠ "") :
    Failure (.ok body) (.backend code (page.message.getD ""))

variable {answer : Except FetchError String} {e : CatalogError}

lemma fetchError_status (status : ℕ) (body : String) :
    fetchError (.status status body) =
      ((Envelope.parse? Json.canonical? body).bind Envelope.error?).getD
        (.fetch (.status status body)) := rfl

lemma arrival_of_unreadable {body : String}
    (h : Envelope.parse? (Json.list? Entry.ofJson?) body = none) :
    arrival (.ok body) = .error (.json body) := by
  simp only [arrival, h]

lemma arrival_of_page {body : String} {page : Envelope (List Entry)}
    (h : Envelope.parse? (Json.list? Entry.ofJson?) body = some page) :
    arrival (.ok body) = page.error?.elim (.ok page) .error := by
  simp only [arrival, h]
  cases page.error? <;> rfl

/-- These are all the reasons. -/
lemma arrival_eq_error_iff : arrival answer = .error e ↔ Failure answer e := by
  constructor
  · intro h
    rcases answer with (⟨message⟩ | ⟨status, body⟩) | body
    · obtain rfl := Except.error.inj h
      exact .transport message
    · obtain rfl := Except.error.inj h
      rw [fetchError_status]
      cases herror : (Envelope.parse? Json.canonical? body).bind Envelope.error? with
      | none => exact .status (Envelope.not_reports_of_eq_none herror)
      | some e =>
        obtain ⟨code, message, hreports, rfl⟩ := Envelope.exists_reports_of_eq_some herror
        exact .reported hreports
    · cases hpage : Envelope.parse? (Json.list? Entry.ofJson?) body with
      | none =>
        rw [arrival_of_unreadable hpage] at h
        obtain rfl := Except.error.inj h
        exact .unreadable hpage
      | some page =>
        rw [arrival_of_page hpage] at h
        cases herror : page.error? with
        | none =>
          rw [herror] at h
          cases h
        | some e' =>
          rw [herror] at h
          obtain rfl := Except.error.inj h
          obtain ⟨code, hcode, hne, rfl⟩ := Envelope.error?_eq_some_iff.1 herror
          exact .refused hpage hcode hne
  · intro h
    cases h with
    | transport message => rfl
    | @reported status body code message h =>
      show Except.error (fetchError (.status status body)) = _
      rw [fetchError_status, Envelope.reports_iff.1 h, Option.getD_some]
    | @status status body h =>
      show Except.error (fetchError (.status status body)) = _
      rw [fetchError_status]
      cases herror : (Envelope.parse? Json.canonical? body).bind Envelope.error? with
      | none => rfl
      | some e =>
        obtain ⟨code, message, hreports, -⟩ := Envelope.exists_reports_of_eq_some herror
        exact absurd hreports (h code message)
    | unreadable h => exact arrival_of_unreadable h
    | refused h hcode hne =>
      rw [arrival_of_page h, Envelope.error?_eq_some_iff.2 ⟨_, hcode, hne, rfl⟩]
      rfl

/-- Only a page changes the catalog. -/
lemma receive_eq (c : Catalog) (answer : Except FetchError String) :
    c.receive answer =
      match arrival answer with
      | .ok page => (c.extended page, .ok ())
      | .error e => (c, .error e) := by
  rcases answer with error | body
  · rfl
  · rw [receive, arrival]
    cases Envelope.parse? (Json.list? Entry.ofJson?) body with
    | none => rfl
    | some page =>
      simp only
      cases herror : page.error? with
      | none => exact ingest_of_error?_eq_none herror
      | some e => exact ingest_of_error?_eq_some herror

/-! ## Calls -/

section

variable {σ : Type} (fetch : Url → StateM σ (Except FetchError String)) (base : String) (s : σ)

/-- Without a URL nobody is asked. -/
lemma run_loadNextPage_of_error {c : Catalog} (h : c.requestUrl base = .error e) :
    (c.loadNextPage fetch base).run s = ((c, .error e), s) := by
  rw [loadNextPage, h]
  rfl

lemma run_loadNextPage_of_ok {c : Catalog} {url : Url} (h : c.requestUrl base = .ok url) :
    (c.loadNextPage fetch base).run s =
      (c.receive ((fetch url).run s).1, ((fetch url).run s).2) := by
  rw [loadNextPage, h]
  rfl

/-- The next page is not loaded if there is no URL to ask for it, or the answer brings none. -/
lemma loadNextPage_fails_iff (c : Catalog) :
    ((c.loadNextPage fetch base).run s).1.2 = .error e ↔
      c.requestUrl base = .error e ∨
        ∃ url, c.requestUrl base = .ok url ∧ Failure ((fetch url).run s).1 e := by
  cases hurl : c.requestUrl base with
  | error e' => simp [run_loadNextPage_of_error fetch base s hurl]
  | ok url =>
    rw [run_loadNextPage_of_ok fetch base s hurl, receive_eq]
    simp only [reduceCtorEq, false_or, Except.ok.injEq, exists_eq_left', ← arrival_eq_error_iff]
    cases arrival ((fetch url).run s).1 <;> simp

lemma loadNextPage_of_error {c : Catalog} (h : ((c.loadNextPage fetch base).run s).1.2 = .error e) :
    ((c.loadNextPage fetch base).run s).1.1 = c := by
  cases hurl : c.requestUrl base with
  | error e' => rw [run_loadNextPage_of_error fetch base s hurl]
  | ok url =>
    rw [run_loadNextPage_of_ok fetch base s hurl, receive_eq] at h ⊢
    cases harrival : arrival ((fetch url).run s).1 with
    | error e' => rfl
    | ok page =>
      rw [harrival] at h
      cases h

end

lemma failure_backend_iff {status : ℕ} {body code message : String} :
    Failure (.error (.status status body)) (.backend code message) ↔
      Envelope.Reports body code message := by
  constructor
  · intro h
    cases h with
    | reported h => exact h
  · exact .reported

/-- Whatever the catalog holds, a call that fails leaves it as it is.  Without a URL nobody is
asked.  Loading the next page fails for the reasons above and for no other.  Of an answer whose
status is not one of success, the error is the one that the body reports, or else the status with
the body as it came. -/
theorem failures_change_nothing {σ : Type} (c : Catalog) :
    (∀ base e, c.requestUrl base = .error e →
      ∀ (fetch : Url → StateM σ (Except FetchError String)) s,
        (c.loadNextPage fetch base).run s = ((c, .error e), s)) ∧
    (∀ page e, (c.ingest page).2 = .error e → (c.ingest page).1 = c) ∧
    (∀ value e, (c.select value).2 = .error e → (c.select value).1 = c) ∧
    ∀ (fetch : Url → StateM σ (Except FetchError String)) base s,
      let r := ((c.loadNextPage fetch base).run s).1
      (∀ e, r.2 = .error e → r.1 = c) ∧
      (∀ e, r.2 = .error e ↔ c.requestUrl base = .error e ∨
        ∃ url, c.requestUrl base = .ok url ∧ Failure ((fetch url).run s).1 e) ∧
      ∀ url status body, c.requestUrl base = .ok url →
        ((fetch url).run s).1 = .error (.status status body) →
          (∀ code message,
            r.2 = .error (.backend code message) ↔ Envelope.Reports body code message) ∧
          ((∀ code message, ¬ Envelope.Reports body code message) →
            r.2 = .error (.fetch (.status status body))) := by
  refine ⟨fun base e hurl fetch s => run_loadNextPage_of_error fetch base s hurl,
    fun page e => (step_ingest (rfl : c.carried? (.ingest page) = some page)).eq_of_error,
    fun value e => ?_,
    fun fetch base s => ⟨fun e => loadNextPage_of_error fetch base s,
      fun e => loadNextPage_fails_iff fetch base s c, fun url status body hurl hanswer => ?_⟩⟩
  · intro h
    exact (step_select c value).eq_of_error (e := e) (by rw [turn, h]; rfl)
  · have hfails (e : CatalogError) : ((c.loadNextPage fetch base).run s).1.2 = .error e ↔
        Failure (.error (.status status body)) e := by
      rw [loadNextPage_fails_iff, hurl, ← hanswer]
      simp
    exact ⟨fun code message => (hfails _).trans failure_backend_iff,
      fun h => (hfails _).2 (.status h)⟩

/-- One page of three is loaded. -/
def started : Catalog where
  pageSize := 1
  page := 1
  entries := [⟨1, "a", "Petri", .null⟩]
  choices := [⟨"a: [Petri]", "1"⟩]
  total := 3

/-- A service that cannot answer, and counts how often it could not. -/
def offline (body : String) : Url → StateM ℕ (Except FetchError String) := fun _ =>
  modifyGet fun n => (.error (.status 503 body), n + 1)

/-- A body that says why. -/
def offlineBody : String :=
  "\x7b\"errorCode\":\"E_DB\",\"message\":\"database offline\"\x7d"

theorem failures_change_nothing_offline :
    ((started.loadNextPage (offline offlineBody) "http://[::1]:4000").run 0).1 =
        (started, .error (.backend "E_DB" "database offline")) ∧
      ((started.loadNextPage (offline "<html>") "http://[::1]:4000").run 0).1 =
        (started, .error (.fetch (.status 503 "<html>"))) := by
  obtain ⟨-, -, -, hload⟩ := failures_change_nothing (σ := ℕ) started
  obtain ⟨url, hurl⟩ : ∃ url, started.requestUrl "http://[::1]:4000" = .ok url := ⟨_, rfl⟩
  obtain ⟨hkept, -, hstatus⟩ := hload (offline offlineBody) "http://[::1]:4000" 0
  have hreported := ((hstatus url 503 _ hurl rfl).1 "E_DB" "database offline").2
    (Envelope.reports_iff.2 rfl)
  obtain ⟨hkept', -, hstatus'⟩ := hload (offline "<html>") "http://[::1]:4000" 0
  have hunexplained := (hstatus' url 503 "<html>" hurl rfl).2
    (Envelope.not_reports_of_eq_none rfl)
  exact ⟨Prod.ext (hkept _ hreported) hreported, Prod.ext (hkept' _ hunexplained) hunexplained⟩

end Catalog

end Atelier

/-
Pages that are loaded one after the other, whatever the service answers.

The service is any sequence of answers, and each request takes the next one (`Visit`).  A page that
comes in is the one that was asked for (`Holds.run_loadNextPage`).  So the requests count the pages,
and they go on until an answer brings no page, nothing is left to load, or there are pages enough
(`Loading`, `Holds.run_loadPages`).
-/
import Atelier.Proofs.Catalog.Failure

namespace Atelier

/-- What a program has of a service: the answers to its requests, in order. -/
structure Visit where
  answers : ℕ → Except FetchError String
  /-- The requests so far. -/
  asked : List Url := []
  /-- The lines that are printed. -/
  printed : List String := []

/-- The next answer, whatever is asked for. -/
def Visit.ask (url : Url) : StateM Visit (Except FetchError String) :=
  modifyGet fun s => (s.answers s.asked.length, { s with asked := s.asked ++ [url] })

namespace Catalog

/-! ## What is asked for, and what is loaded -/

/-- The request for a page.  The first page has the index zero and the number one. -/
def pageRequest (service : Url) (search : String) (size i : ℕ) : Url :=
  service.withFields ((if search.isEmpty then [] else [("search", search)]) ++
    [("pageNumber", toString (i + 1)), ("pageSize", toString size)])

/-- The entries that an answer brings. -/
def brought (answer : Except FetchError String) : List Entry :=
  match arrival answer with
  | .ok page => page.data.getD []
  | .error _ => []

/-- The entries that the first `n` answers bring, in the order of their arrival. -/
def loaded (answers : ℕ → Except FetchError String) (n : ℕ) : List Entry :=
  (List.range n).flatMap fun i => brought (answers i)

/-- What becomes of loading pages with indices from `first` on and below `bound`. -/
structure Loading (answers : ℕ → Except FetchError String) (first bound last : ℕ)
    (result : Except CatalogError Unit) : Prop where
  first_le : first ≤ last
  last_lt : last < bound
  /-- Each page but the last one came in, and left something to load. -/
  goes_on : ∀ i, first ≤ i → i < last →
    ∃ page, arrival (answers i) = .ok page ∧ (loaded answers (i + 1)).length < page.total
  /-- The last one did not come in, or it was enough, or it left nothing to load. -/
  stops : (∃ e, arrival (answers last) = .error e ∧ result = .error e) ∨
    ∃ page, arrival (answers last) = .ok page ∧ result = .ok () ∧
      (last + 1 = bound ∨ page.total ≤ (loaded answers (last + 1)).length)

variable {answers : ℕ → Except FetchError String} {service : Url} {base search : String}
  {size n : ℕ}

/-- The fields of a request, as they stand in its query. -/
lemma fields_pageRequest (service : Url) (search : String) (size i : ℕ) :
    (pageRequest service search size i).fields = service.fields ++
      ((if search.isEmpty then [] else [Url.writtenField ("search", search)]) ++
        [("pageNumber=" ++ toString (i + 1)).toList, ("pageSize=" ++ toString size).toList]) := by
  rw [pageRequest, Url.fields_withFields, map_writtenField_page]
  split <;> rfl

lemma loaded_succ (answers : ℕ → Except FetchError String) (n : ℕ) :
    loaded answers (n + 1) = loaded answers n ++ brought (answers n) := by
  simp [loaded, List.range_succ]

/-! ## One page -/

/-- What a catalog knows once `n` answers have brought a page. -/
structure Holds (answers : ℕ → Except FetchError String) (search : String) (size n : ℕ)
    (c : Catalog) : Prop where
  page_eq : c.page.toNat = n
  search_eq : c.search = search
  pageSize_eq : c.pageSize = size
  entries_eq : c.entries = loaded answers n
  choices_eq : c.choices = c.entries.map Entry.choice

namespace Holds

variable {c : Catalog} {page : Envelope (List Entry)}

lemma setSearch_new (answers : ℕ → Except FetchError String) (search : String) (size : ℕ) :
    Holds answers search (max size 1) 0 ((Catalog.new size).setSearch search) :=
  ⟨rfl, rfl, rfl, rfl, rfl⟩

lemma requestUrl_eq (h : Holds answers search size n c) (hroom : n + 1 < UInt32.size)
    (hservice : serviceUrl base route = .ok service) :
    c.requestUrl base = .ok (pageRequest service search size n) := by
  have hnumber : toString (c.page + 1) = toString (n + 1) := by
    show toString (c.page + 1).toNat = _
    rw [UInt32.toNat_add, h.page_eq]
    exact congrArg toString (Nat.mod_eq_of_lt hroom)
  rw [requestUrl, hservice, requestFields, hnumber, h.search_eq, h.pageSize_eq]
  rfl

/-- Before the first page nothing is loaded, so nothing is lost when it comes in. -/
lemma kept_eq (h : Holds answers search size n c) : c.kept = loaded answers n := by
  unfold kept
  split
  · rename_i hpage
    obtain rfl : n = 0 := by rw [← h.page_eq, hpage]; rfl
    rfl
  · exact h.entries_eq

/-- The page that comes in is the next one. -/
lemma extended (h : Holds answers search size n c) (hroom : n + 1 < UInt32.size)
    (hpage : arrival (answers n) = .ok page) :
    Holds answers search size (n + 1) (c.extended page) where
  page_eq := by
    rw [page_extended, UInt32.toNat_add, h.page_eq]
    exact Nat.mod_eq_of_lt hroom
  search_eq := h.search_eq
  pageSize_eq := h.pageSize_eq
  entries_eq := by rw [entries_extended, h.kept_eq, loaded_succ, brought, hpage]
  choices_eq := choices_extended_eq h.choices_eq page

lemma hasMore_extended_iff (h : Holds answers search size (n + 1) (c.extended page)) :
    (c.extended page).hasMore = true ↔ (loaded answers (n + 1)).length < page.total := by
  rw [hasMore, decide_eq_true_iff, h.choices_eq, List.length_map, h.entries_eq]
  rfl

end Holds

/-- A visit on which the first `n` pages have been asked for, and nothing has been printed. -/
def asking (answers : ℕ → Except FetchError String) (service : Url) (search : String)
    (size n : ℕ) : Visit where
  answers
  asked := (List.range n).map (pageRequest service search size)

lemma run_ask (answers : ℕ → Except FetchError String) (service : Url) (search : String)
    (size n : ℕ) :
    (Visit.ask (pageRequest service search size n)).run (asking answers service search size n) =
      (answers n, asking answers service search size (n + 1)) := by
  have hasked : (asking answers service search size n).asked.length = n := by simp [asking]
  show (answers (asking answers service search size n).asked.length, _) = _
  rw [hasked]
  simp [asking, List.range_succ]

/-- The next page is asked for, and taken in if it comes. -/
lemma Holds.run_loadNextPage {c : Catalog} (h : Holds answers search size n c)
    (hroom : n + 1 < UInt32.size) (hservice : serviceUrl base route = .ok service) :
    (c.loadNextPage Visit.ask base).run (asking answers service search size n) =
      (match arrival (answers n) with
        | .ok page => (c.extended page, .ok ())
        | .error e => (c, .error e), asking answers service search size (n + 1)) := by
  have hrun := run_loadNextPage_of_ok Visit.ask base (asking answers service search size n)
    (h.requestUrl_eq hroom hservice)
  rw [run_ask, receive_eq] at hrun
  exact hrun

/-! ## Many pages -/

section

variable {σ : Type} {fetch : Url → StateM σ (Except FetchError String)} {s s' : σ}
  {c c' : Catalog}

lemma run_loadPages_of_error {e : CatalogError} (count : ℕ)
    (h : (c.loadNextPage fetch base).run s = ((c', .error e), s')) :
    (c.loadPages fetch base (count + 1)).run s = ((c', .error e), s') := by
  rw [loadPages, StateT.run_bind, h]
  rfl

lemma run_loadPages_of_ok (count : ℕ)
    (h : (c.loadNextPage fetch base).run s = ((c', .ok ()), s')) :
    (c.loadPages fetch base (count + 1)).run s = (c'.loadMore fetch base count).run s' := by
  rw [loadPages, StateT.run_bind, h]
  rfl

end

namespace Loading

variable {bound last : ℕ} {e : CatalogError} {page : Envelope (List Entry)}
  {result : Except CatalogError Unit}

lemma of_error (hn : n < bound) (h : arrival (answers n) = .error e) :
    Loading answers n bound n (.error e) :=
  ⟨Nat.le_refl n, hn, fun _ hle hlt => absurd hlt (Nat.not_lt.2 hle), .inl ⟨e, h, rfl⟩⟩

lemma of_ok (hn : n < bound) (h : arrival (answers n) = .ok page)
    (henough : n + 1 = bound ∨ page.total ≤ (loaded answers (n + 1)).length) :
    Loading answers n bound n (.ok ()) :=
  ⟨Nat.le_refl n, hn, fun _ hle hlt => absurd hlt (Nat.not_lt.2 hle), .inr ⟨page, h, rfl, henough⟩⟩

/-- A page that leaves something to load stands before the others. -/
lemma cons (hrest : Loading answers (n + 1) bound last result)
    (h : arrival (answers n) = .ok page)
    (hmore : (loaded answers (n + 1)).length < page.total) :
    Loading answers n bound last result where
  first_le := Nat.le_of_succ_le hrest.first_le
  last_lt := hrest.last_lt
  goes_on i hle hlt := by
    rcases Nat.eq_or_lt_of_le hle with rfl | hlt'
    · exact ⟨page, h, hmore⟩
    · exact hrest.goes_on i hlt' hlt
  stops := hrest.stops

end Loading

/-- Whatever the answers are, the pages are asked for one after the other, and what is loaded in the
end are the entries on all of them.  The induction is on how many pages there may be after the
next. -/
lemma Holds.run_loadPages {c : Catalog} (h : Holds answers search size n c) (count : ℕ)
    (hroom : n + count + 1 < UInt32.size) (hservice : serviceUrl base route = .ok service) :
    ∃ last c' result, Loading answers n (n + count + 1) last result ∧
      (c.loadPages Visit.ask base (count + 1)).run (asking answers service search size n) =
        ((c', result), asking answers service search size (last + 1)) ∧
      (result = .ok () → c'.entries = loaded answers (last + 1)) := by
  induction count generalizing n c with
  | zero =>
    have hnext := h.run_loadNextPage hroom hservice
    cases hpage : arrival (answers n) with
    | error e =>
      rw [hpage] at hnext
      exact ⟨n, c, .error e, .of_error (by omega) hpage, run_loadPages_of_error 0 hnext, by simp⟩
    | ok page =>
      rw [hpage] at hnext
      exact ⟨n, _, .ok (), .of_ok (by omega) hpage (.inl rfl), run_loadPages_of_ok 0 hnext,
        fun _ => (h.extended hroom hpage).entries_eq⟩
  | succ count ih =>
    have hlt : n + 1 < UInt32.size := by omega
    have hnext := h.run_loadNextPage hlt hservice
    cases hpage : arrival (answers n) with
    | error e =>
      rw [hpage] at hnext
      exact ⟨n, c, .error e, .of_error (by omega) hpage, run_loadPages_of_error _ hnext, by simp⟩
    | ok page =>
      rw [hpage] at hnext
      have hextended := h.extended hlt hpage
      rw [run_loadPages_of_ok _ hnext, loadMore]
      cases hmore : (c.extended page).hasMore with
      | false =>
        have henough : page.total ≤ (loaded answers (n + 1)).length :=
          Nat.not_lt.1 fun hlt => by simp [hextended.hasMore_extended_iff.2 hlt] at hmore
        exact ⟨n, _, .ok (), .of_ok (by omega) hpage (.inr henough), rfl,
          fun _ => hextended.entries_eq⟩
      | true =>
        obtain ⟨last, c', result, hloading, hrun, hentries⟩ := ih hextended (by omega)
        rw [show n + 1 + count + 1 = n + (count + 1) + 1 by omega] at hloading
        exact ⟨last, c', result, hloading.cons hpage (hextended.hasMore_extended_iff.1 hmore),
          hrun, hentries⟩

end Catalog

end Atelier

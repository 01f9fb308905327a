/-
The catalog through any number of searches, pages, selections and failures.

Beside the catalog we keep what it ought to know: the pages that came in since the last search, and
the entries from before it (`Catalog.Browsing`).  Each call does one of four things
(`Catalog.Step`), and all of them keep the two in step (`Catalog.Consistent.after`), as long as the
pages can be counted in 32 bits.
-/
import Atelier.Catalog.Basic
import Atelier.Proofs.Url.Query

namespace Atelier.Catalog

/-! ## Calls -/

/-- What can be asked of a catalog.  The answer of the service is part of the call. -/
inductive Call where
  | setSearch (search : String)
  | ingest (page : Envelope (List Entry))
  | select (value : String)
  | loadNextPage (fetch : Url → Except FetchError String) (base : String)

/-- The catalog after a call, and whether the call succeeded. -/
def turn (c : Catalog) : Call → Catalog × Except CatalogError Unit
  | .setSearch search => (c.setSearch search, .ok ())
  | .ingest page => c.ingest page
  | .select value => ((c.select value).1, (c.select value).2.map fun _ => ())
  | .loadNextPage fetch base => c.loadNextPage (m := Id) fetch base

/-- The page that comes with a call. -/
def carried? (c : Catalog) : Call → Option (Envelope (List Entry))
  | .ingest page => some page
  | .loadNextPage fetch base => do
    let url ← (c.requestUrl base).toOption
    let body ← (fetch url).toOption
    Envelope.parse? (Json.list? Entry.ofJson?) body
  | _ => none

/-- The entries that stay when a page comes in. -/
def kept (c : Catalog) : List Entry :=
  if c.page = 0 then [] else c.entries

/-- The choices that stay when a page comes in. -/
def keptChoices (c : Catalog) : List Choice :=
  if c.page = 0 then [] else c.choices

/-- The catalog with one more page. -/
def extended (c : Catalog) (page : Envelope (List Entry)) : Catalog :=
  { c with
    entries := c.kept ++ page.data.getD []
    choices := c.keptChoices ++ (page.data.getD []).map Entry.choice
    total := page.total
    page := c.page + 1 }

lemma page_extended (c : Catalog) (page : Envelope (List Entry)) :
    (c.extended page).page = c.page + 1 := rfl

lemma entries_extended (c : Catalog) (page : Envelope (List Entry)) :
    (c.extended page).entries = c.kept ++ page.data.getD [] := rfl

lemma choices_extended (c : Catalog) (page : Envelope (List Entry)) :
    (c.extended page).choices = c.keptChoices ++ (page.data.getD []).map Entry.choice := rfl

/-- What a call comes to. -/
inductive Step (c : Catalog) : Call → Catalog × Except CatalogError Unit → Prop where
  | searched (search : String) : Step c (.setSearch search) (c.setSearch search, .ok ())
  | brought {call : Call} {page : Envelope (List Entry)} (h : c.carried? call = some page) :
    Step c call (c.extended page, .ok ())
  | chosen (value : String) (selected : Option Choice) :
    Step c (.select value) ({ c with selected }, .ok ())
  | failed {call : Call} {e : CatalogError} : Step c call (c, .error e)

variable {c : Catalog} {call : Call} {page : Envelope (List Entry)}

/-- Each entry that comes in comes with its choice. -/
lemma choices_extended_eq (h : c.choices = c.entries.map Entry.choice)
    (page : Envelope (List Entry)) :
    (c.extended page).choices = (c.extended page).entries.map Entry.choice := by
  have hkept : c.keptChoices = c.kept.map Entry.choice := by
    rw [keptChoices, kept, h]
    split <;> rfl
  rw [choices_extended, entries_extended, hkept, List.map_append]

lemma ingest_of_error?_eq_none (h : page.error? = none) :
    c.ingest page = (c.extended page, .ok ()) := by
  rw [ingest, h, extended, kept, keptChoices]
  by_cases hpage : c.page = 0 <;> simp [hpage]

lemma ingest_of_error?_eq_some {e : CatalogError} (h : page.error? = some e) :
    c.ingest page = (c, .error e) := by
  rw [ingest, h]

/-- A page is taken in as a whole, or not at all. -/
lemma step_ingest (h : c.carried? call = some page) : Step c call (c.ingest page) := by
  cases herror : page.error? with
  | none =>
    rw [ingest_of_error?_eq_none herror]
    exact .brought h
  | some e =>
    rw [ingest_of_error?_eq_some herror]
    exact .failed

lemma step_select (c : Catalog) (value : String) :
    Step c (.select value) (c.turn (.select value)) := by
  rw [turn, select]
  split
  · exact .failed
  · exact .chosen value _

lemma step_loadNextPage (c : Catalog) (fetch : Url → Except FetchError String) (base : String) :
    Step c (.loadNextPage fetch base) (c.turn (.loadNextPage fetch base)) := by
  rw [turn, loadNextPage]
  split
  · exact .failed
  · rename_i url hurl
    show Step c _ (c.receive (fetch url))
    cases hanswer : fetch url with
    | error e => exact .failed
    | ok body =>
      cases hpage : Envelope.parse? (Json.list? Entry.ofJson?) body with
      | none =>
        rw [receive]
        simp only [hpage]
        exact .failed
      | some page =>
        rw [receive]
        simp only [hpage]
        exact step_ingest (by simp [carried?, hurl, hanswer, hpage, Except.toOption])

/-- A call does nothing else than one of these. -/
lemma step_turn (c : Catalog) (call : Call) : Step c call (c.turn call) := by
  cases call with
  | setSearch search => exact .searched search
  | ingest page => exact step_ingest rfl
  | select value => exact c.step_select value
  | loadNextPage fetch base => exact c.step_loadNextPage fetch base

/-- The service is asked for the next page, and for nothing else. -/
lemma turn_loadNextPage_congr {fetch fetch' : Url → Except FetchError String} {base : String}
    {url : Url} (hurl : c.requestUrl base = .ok url) (h : fetch url = fetch' url) :
    c.turn (.loadNextPage fetch base) = c.turn (.loadNextPage fetch' base) := by
  rw [turn, turn, loadNextPage, loadNextPage, hurl]
  show c.receive (fetch url) = c.receive (fetch' url)
  rw [h]

/-- A call that fails leaves the catalog as it is. -/
lemma Step.eq_of_error {r : Catalog × Except CatalogError Unit} {e : CatalogError}
    (h : Step c call r) (he : r.2 = .error e) : r.1 = c := by
  cases h with
  | failed => rfl
  | _ => cases he

/-! ## Requests -/

/-- The number and the size of a page, as they stand in the query of the request for it. -/
lemma map_writtenField_page (others : List (String × String)) (number size : ℕ) :
    (others ++ [("pageNumber", toString number), ("pageSize", toString size)]).map
        Url.writtenField =
      others.map Url.writtenField ++
        [("pageNumber=" ++ toString number).toList, ("pageSize=" ++ toString size).toList] := by
  have hnumber : Url.writtenField ("pageNumber", toString number) =
      ("pageNumber=" ++ toString number).toList := Url.writtenField_toString rfl number
  have hsize : Url.writtenField ("pageSize", toString size) =
      ("pageSize=" ++ toString size).toList := Url.writtenField_toString rfl size
  rw [List.map_append, List.map_cons, List.map_singleton, hnumber, hsize]

/-- A request ends in the number and the size of the page. -/
lemma fields_requestUrl {base : String} {url : Url} (h : c.requestUrl base = .ok url) :
    ∃ others, url.fields = others ++ [("pageNumber=" ++ toString (c.page + 1)).toList,
      ("pageSize=" ++ toString c.pageSize).toList] := by
  obtain ⟨u, rfl⟩ : ∃ u : Url, u.withFields c.requestFields = url := by
    cases hservice : serviceUrl base route with
    | error e =>
      rw [requestUrl, hservice] at h
      cases h
    | ok u =>
      rw [requestUrl, hservice] at h
      exact ⟨u, Except.ok.inj h⟩
  have hfields : c.requestFields.map Url.writtenField = _ :=
    map_writtenField_page _ (c.page + 1).toNat c.pageSize
  rw [Url.fields_withFields, hfields, ← List.append_assoc]
  exact ⟨_, rfl⟩

/-! ## Runs -/

/-- A catalog, and what came in on the way to it. -/
structure Browsing where
  catalog : Catalog
  /-- The pages since the last search. -/
  pages : List (Envelope (List Entry)) := []
  /-- The entries before the last search. -/
  before : List Entry := []

namespace Browsing

/-- The record after a call that came to `r`.  A page is recorded if the call succeeded, and a
search starts the record again. -/
def record (b : Browsing) (call : Call) (r : Catalog × Except CatalogError Unit) : Browsing :=
  match r.2, call with
  | .error _, _ => { b with catalog := r.1 }
  | .ok (), .setSearch _ => { catalog := r.1, before := b.catalog.entries }
  | .ok (), call => { b with
    catalog := r.1
    pages := b.pages ++ (b.catalog.carried? call).toList }

/-- The record after a call. -/
def after (b : Browsing) (call : Call) : Browsing :=
  b.record call (b.catalog.turn call)

/-- The record after calls, one after the other. -/
def run (b : Browsing) (calls : List Call) : Browsing :=
  calls.foldl after b

/-- What the catalog knows is what came in. -/
structure Consistent (size : Nat) (b : Browsing) : Prop where
  page_eq : b.catalog.page.toNat = b.pages.length
  entries_eq : b.catalog.entries =
    if b.pages = [] then b.before else b.pages.flatMap (·.data.getD [])
  choices_eq : b.catalog.choices = b.catalog.entries.map Entry.choice
  total_eq : b.catalog.total = (b.pages.getLast?.map (·.total)).getD 0
  pageSize_eq : b.catalog.pageSize = size

namespace Consistent

variable {size : Nat} {b : Browsing}

lemma page_eq_zero_iff (h : Consistent size b) : b.catalog.page = 0 ↔ b.pages = [] := by
  rw [← List.length_eq_zero_iff, ← h.page_eq, ← UInt32.toNat_inj]
  rfl

/-- What is loaded counts only if it belongs to the search. -/
lemma kept_eq (h : Consistent size b) : b.catalog.kept = b.pages.flatMap (·.data.getD []) := by
  rw [kept]
  split
  · rename_i hpage
    rw [h.page_eq_zero_iff.1 hpage, List.flatMap_nil]
  · rename_i hpage
    rw [h.entries_eq, if_neg (mt h.page_eq_zero_iff.2 hpage)]

/-- One more page keeps the catalog consistent, as long as it can be counted. -/
lemma extended (h : Consistent size b) (hroom : b.pages.length + 1 < UInt32.size)
    (page : Envelope (List Entry)) :
    Consistent size { b with catalog := b.catalog.extended page, pages := b.pages ++ [page] } where
  page_eq := by
    rw [page_extended, UInt32.toNat_add, h.page_eq, List.length_append]
    exact Nat.mod_eq_of_lt hroom
  entries_eq := by simp [entries_extended, h.kept_eq]
  choices_eq := choices_extended_eq h.choices_eq page
  total_eq := by simp [Catalog.extended]
  pageSize_eq := h.pageSize_eq

/-- Whatever a call comes to keeps the catalog consistent. -/
lemma record (h : Consistent size b) (hroom : b.pages.length + 1 < UInt32.size) {call : Call}
    {r : Catalog × Except CatalogError Unit} (hstep : Step b.catalog call r) :
    Consistent size (b.record call r) := by
  cases hstep with
  | searched search => exact ⟨rfl, rfl, h.choices_eq, rfl, h.pageSize_eq⟩
  | @brought call page hpage =>
    have hextended := h.extended hroom page
    cases call with
    | setSearch => cases hpage
    | _ => simpa only [Browsing.record, hpage, Option.toList_some] using hextended
  | chosen value selected =>
    simpa [Browsing.record, carried?] using
      (⟨h.page_eq, h.entries_eq, h.choices_eq, h.total_eq, h.pageSize_eq⟩ :
        Consistent size { b with catalog := { b.catalog with selected } })
  | failed => exact ⟨h.page_eq, h.entries_eq, h.choices_eq, h.total_eq, h.pageSize_eq⟩

/-- And so does any number of calls, as long as no search has more pages than can be counted. -/
lemma run (h : Consistent size b) (calls : List Call)
    (hroom : ∀ earlier, earlier <+: calls → (b.run earlier).pages.length + 1 < UInt32.size) :
    Consistent size (b.run calls) := by
  induction calls generalizing b with
  | nil => exact h
  | cons call calls ih =>
    have hnext := h.record (hroom [] List.nil_prefix) (step_turn b.catalog call)
    exact ih hnext fun earlier hearlier =>
      hroom (call :: earlier) (List.cons_prefix_cons.2 ⟨rfl, hearlier⟩)

end Consistent

/-- A new catalog. -/
def opened (pageSize : Nat) : Browsing where
  catalog := .new pageSize

/-- Each call brings in one page at most. -/
lemma length_pages_record_le (b : Browsing) (call : Call)
    (r : Catalog × Except CatalogError Unit) :
    (b.record call r).pages.length ≤ b.pages.length + 1 := by
  unfold record
  split
  · exact Nat.le_succ _
  · exact Nat.zero_le _
  · rename_i call _ _
    cases b.catalog.carried? call <;> simp

lemma length_pages_run_le (b : Browsing) (calls : List Call) :
    (b.run calls).pages.length ≤ b.pages.length + calls.length := by
  induction calls generalizing b with
  | nil => exact Nat.le_refl _
  | cons call calls ih =>
    have hcall := b.length_pages_record_le call (b.catalog.turn call)
    have hrest := ih (b.after call)
    calc (b.run (call :: calls)).pages.length
        ≤ (b.after call).pages.length + calls.length := hrest
      _ ≤ b.pages.length + 1 + calls.length := Nat.add_le_add_right hcall _
      _ = b.pages.length + (call :: calls).length := by rw [List.length_cons]; omega

/-- Whatever is asked of a new catalog, it counts the pages of the last search and holds their
entries in order, or those from before it while there are none.  The next request is for the page
after these, and nothing changes when a call fails, so that this page is asked for again. -/
theorem pages_in_order (pageSize : Nat) (calls : List Call)
    (hroom : ∀ earlier, earlier <+: calls →
      ((opened pageSize).run earlier).pages.length + 1 < UInt32.size) :
    let b := (opened pageSize).run calls
    b.catalog.page.toNat = b.pages.length ∧
    (b.pages ≠ [] → b.catalog.entries = b.pages.flatMap (·.data.getD []) ∧
      b.pages.getLast?.map (·.total) = some b.catalog.total) ∧
    (b.pages = [] → b.catalog.total = 0 ∧ b.catalog.entries = b.before) ∧
    b.catalog.choices = b.catalog.entries.map Entry.choice ∧
    (b.catalog.hasMore ↔ b.catalog.entries.length < b.catalog.total) ∧
    (∀ base url, b.catalog.requestUrl base = .ok url →
      (∃ others, url.fields = others ++
        [("pageNumber=" ++ toString (b.pages.length + 1)).toList,
          ("pageSize=" ++ toString (max pageSize 1)).toList]) ∧
      ∀ fetch fetch', fetch url = fetch' url →
        b.catalog.turn (.loadNextPage fetch base) = b.catalog.turn (.loadNextPage fetch' base)) ∧
    (∀ call e, (b.catalog.turn call).2 = .error e → (b.catalog.turn call).1 = b.catalog) := by
  intro b
  have hopened : Consistent (max pageSize 1) (opened pageSize) := ⟨rfl, rfl, rfl, rfl, rfl⟩
  have hb : Consistent (max pageSize 1) b := hopened.run calls hroom
  have hnumber : toString (b.catalog.page + 1) = toString (b.pages.length + 1) := by
    have hlast : b.pages.length + 1 < UInt32.size := hroom calls List.prefix_rfl
    show toString (b.catalog.page + 1).toNat = _
    rw [UInt32.toNat_add, hb.page_eq]
    exact congrArg toString (Nat.mod_eq_of_lt hlast)
  refine ⟨hb.page_eq, fun hpages => ?_, fun hpages => ?_, hb.choices_eq, ?_,
    fun base url hurl => ⟨?_, fun fetch fetch' => turn_loadNextPage_congr hurl⟩,
    fun call e => (step_turn b.catalog call).eq_of_error⟩
  · have hlast := List.getLast?_eq_some_getLast hpages
    exact ⟨by rw [hb.entries_eq, if_neg hpages], by rw [hb.total_eq, hlast]; rfl⟩
  · exact ⟨by rw [hb.total_eq, hpages]; rfl, by rw [hb.entries_eq, if_pos hpages]⟩
  · rw [hasMore, hb.choices_eq, List.length_map, decide_eq_true_iff]
  · have hfields := fields_requestUrl hurl
    rwa [hnumber, hb.pageSize_eq] at hfields

/-- A page with one of two entries. -/
def found : Envelope (List Entry) where
  data := some [⟨7, "b", "Petri", .null⟩]
  total := 2

/-- A page comes in and the next one does not; the search that follows is answered by an error
first. -/
def searching : List Call :=
  [.ingest { data := some [⟨1, "a", "Petri", .null⟩, ⟨7, "b", "Petri", .null⟩], total := 3 },
    .loadNextPage (fun _ => .error (.transport "timeout")) "data:,", .setSearch "b",
    .ingest { errorCode := some "E500" }, .ingest found]

theorem pages_in_order_searching :
    (∀ earlier, earlier <+: searching →
      ((opened 0).run earlier).pages.length + 1 < UInt32.size) ∧
    ((opened 0).run searching).catalog.page.toNat = 1 ∧
    ((opened 0).run searching).catalog.entries = [⟨7, "b", "Petri", .null⟩] ∧
    ((opened 0).run searching).catalog.hasMore = true ∧
    ∀ base url, ((opened 0).run searching).catalog.requestUrl base = .ok url →
      ∃ others, url.fields = others ++ ["pageNumber=2".toList, "pageSize=1".toList] := by
  have hroom : ∀ earlier, earlier <+: searching →
      ((opened 0).run earlier).pages.length + 1 < UInt32.size := by
    intro earlier hearlier
    have hpages := length_pages_run_le (opened 0) earlier
    have hcalls : earlier.length ≤ 5 := hearlier.length_le
    have hnone : (opened 0).pages.length = 0 := rfl
    have hsize : UInt32.size = 2 ^ 32 := rfl
    omega
  have hpages : ((opened 0).run searching).pages = [found] := rfl
  obtain ⟨hpage, hloaded, -, -, hmore, hrequest, -⟩ := pages_in_order 0 searching hroom
  obtain ⟨hentries, htotal⟩ := hloaded (by rw [hpages]; exact List.cons_ne_nil _ _)
  rw [hpages] at hpage hentries htotal hrequest
  refine ⟨hroom, hpage, hentries, hmore.2 ?_, fun base url hurl => (hrequest base url hurl).1⟩
  rw [hentries, ← Option.some.inj htotal]
  decide

end Browsing

end Atelier.Catalog

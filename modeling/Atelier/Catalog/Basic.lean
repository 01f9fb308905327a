/-
The catalog of published semantics, loaded page by page.

Pages are numbered from one.  A new search starts at the first page again, and what is loaded
stays until that page is there.  An operation that fails leaves the catalog as it is.
-/
import Atelier.Catalog.Error
import Atelier.Text.Blank
import Atelier.Url.Reader

namespace Atelier

/-- The entries loaded so far, and what to ask for next. -/
structure Catalog where
  /-- How many entries a page has. -/
  pageSize : Nat
  /-- How many pages are loaded for the search. -/
  page : UInt32 := 0
  /-- What is searched for; empty if nothing. -/
  search : String := ""
  /-- The entries in the order of their arrival. -/
  entries : List Entry := []
  /-- The entries as they are offered for selection. -/
  choices : List Choice := []
  /-- How many entries there are, as far as the service has said. -/
  total : Nat := 0
  selected : Option Choice := none
deriving Inhabited

namespace Catalog

/-- A catalog with nothing loaded.  A page has at least one entry. -/
def new (pageSize : Nat) : Catalog :=
  { pageSize := max pageSize 1 }

/-- Whether there are more entries than are loaded. -/
def hasMore (c : Catalog) : Bool :=
  c.choices.length < c.total

/-- The first entry with a number. -/
def entry? (c : Catalog) (id : Nat) : Option Entry :=
  c.entries.find? (·.id = id)

/-- The catalog with a new search, of which no page is loaded. -/
def setSearch (c : Catalog) (search : String) : Catalog :=
  { c with search, page := 0, total := 0 }

/-! ## Requests -/

/-- The path of published semantics. -/
def route : List String :=
  ["v2", "languages", "semantics"]

/-- A base with segments after its path. -/
def serviceUrl (base : String) (segments : List String) : Except CatalogError Url :=
  match Url.parse? base with
  | none => .error (.url base)
  | some url =>
    match url.extend segments with
    | none => .error (.notABase base)
    | some url => .ok url

/-- The fields of a request for the next page. -/
def requestFields (c : Catalog) : List (String × String) :=
  (if c.search.isEmpty then [] else [("search", c.search)]) ++
    [("pageNumber", toString (c.page + 1)), ("pageSize", toString c.pageSize)]

/-- The request for the next page. -/
def requestUrl (c : Catalog) (base : String) : Except CatalogError Url :=
  (serviceUrl base route).map (·.withFields c.requestFields)

/-! ## Answers -/

/-- The catalog with one more page.  The first page replaces what is loaded. -/
def ingest (c : Catalog) (page : Envelope (List Entry)) : Catalog × Except CatalogError Unit :=
  match page.error? with
  | some e => (c, .error e)
  | none =>
    let (entries, choices) := if c.page = 0 then ([], []) else (c.entries, c.choices)
    let data := page.data.getD []
    ({ c with
      entries := entries ++ data
      choices := choices ++ data.map Entry.choice
      total := page.total
      page := c.page + 1 }, .ok ())

/-- The error of a request without success.  If the body reports an error, it is that one. -/
def fetchError : FetchError → CatalogError
  | .transport message => .fetch (.transport message)
  | .status code body =>
    (((Envelope.parse? Json.canonical? body).bind Envelope.error?)).getD
      (.fetch (.status code body))

/-- The catalog once a request for the next page is answered. -/
def receive (c : Catalog) (answer : Except FetchError String) :
    Catalog × Except CatalogError Unit :=
  match answer with
  | .error e => (c, .error (fetchError e))
  | .ok body =>
    match Envelope.parse? (Json.list? Entry.ofJson?) body with
    | none => (c, .error (.json body))
    | some page => c.ingest page

/-- Asks for the next page. -/
def loadNextPage {m : Type → Type} [Monad m] (fetch : Url → m (Except FetchError String))
    (base : String) (c : Catalog) : m (Catalog × Except CatalogError Unit) :=
  match c.requestUrl base with
  | .error e => pure (c, .error e)
  | .ok url => do return c.receive (← fetch url)

/-- Asks for up to `count` more pages, as long as there are more entries and nothing fails. -/
def loadMore {m : Type → Type} [Monad m] (fetch : Url → m (Except FetchError String))
    (base : String) : Nat → Catalog → m (Catalog × Except CatalogError Unit)
  | 0, c => pure (c, .ok ())
  | count + 1, c =>
    if c.hasMore then do
      let (c, result) ← c.loadNextPage fetch base
      match result with
      | .error e => pure (c, .error e)
      | .ok () => loadMore fetch base count c
    else pure (c, .ok ())

/-- Asks for the first page, and then for as many as there are, `pages` together. -/
def loadPages {m : Type → Type} [Monad m] (fetch : Url → m (Except FetchError String))
    (base : String) (pages : Nat) (c : Catalog) : m (Catalog × Except CatalogError Unit) := do
  let (c, result) ← c.loadNextPage fetch base
  match result with
  | .error e => pure (c, .error e)
  | .ok () => loadMore fetch base (pages - 1) c

/-! ## Selection -/

/-- Selects the choice with a value, and gives the text of its document. -/
def select (c : Catalog) (value : String) : Catalog × Except CatalogError String :=
  match (readUnsigned? UInt64.size (trim value.toList)).bind c.entry? with
  | none => (c, .error (.unknownSelection value))
  | some e =>
    ({ c with selected := c.choices.find? (·.value = toString e.id) }, .ok e.documentText)

end Catalog

end Atelier

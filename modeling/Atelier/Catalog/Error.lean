/-
Why a catalog of published semantics has no answer.
-/
import Atelier.Catalog.Entry
import Atelier.Text.Quoted
import Atelier.Text.Wording

namespace Atelier

/-- Why a request brought no answer to read. -/
inductive FetchError where
  /-- No answer came. -/
  | transport (message : String)
  /-- The answer's status is not one of success. -/
  | status (code : Nat) (body : String)
deriving DecidableEq, Repr

/-- Why a catalog has no answer. -/
inductive CatalogError where
  /-- The base is no URL. -/
  | url (base : String)
  /-- The base is a URL whose path has no structure. -/
  | notABase (base : String)
  | fetch (error : FetchError)
  /-- The answer is no JSON, or not that of a page. -/
  | json (body : String)
  /-- The service says what went wrong. -/
  | backend (code message : String)
  | unknownSelection (value : String)
deriving DecidableEq, Repr

/-- What is wrong, in words. -/
def FetchError.message : FetchError → String
  | transport message => "request failed: " ++ message
  | status code _ => "HTTP " ++ toString code

/-- What is wrong, in words. -/
def CatalogError.message (w : Wording) : CatalogError → String
  | url base => "invalid backend url: " ++ w.refusal .url base
  | notABase base => "backend url cannot carry a path: " ++ base
  | fetch error => error.message
  | json body => "invalid catalog response: " ++ w.refusal .page body
  | backend code message => code ++ ": " ++ message
  | unknownSelection value => "no catalog entry with id " ++ quoted value

/-- The error that an envelope reports: one with a code that is not empty. -/
def Envelope.error? {α : Type} (e : Envelope α) : Option CatalogError :=
  match e.errorCode with
  | some code => if code.isEmpty then none else some (.backend code (e.message.getD ""))
  | none => none

end Atelier

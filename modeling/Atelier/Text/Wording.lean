/-
Words for texts that are refused.

A text that is not what it should be is refused by the reader of its format, and the reader says
why.  Its words are its own: an error keeps the text that was refused, and whoever puts the error
into words brings those of the readers.
-/

namespace Atelier

/-- What a text is read as. -/
inductive DocumentKind where
  | abstractSyntax
  | concreteSyntax
  /-- A language definition. -/
  | model
  | semantics
  /-- A page of a catalog. -/
  | page
  /-- A snapshot in JSON. -/
  | snapshot
  | xml
  | url
deriving DecidableEq, Repr

/-- The words of the readers. -/
structure Wording where
  /-- Why a text cannot be read as a document of a kind. -/
  refusal : DocumentKind → String → String

end Atelier

/-
Why a language definition cannot be turned into its other form.
-/
import Atelier.Text.Wording

namespace Atelier

/-- One of the two documents of the textual form. -/
inductive SyntaxPart where
  | abstract
  | concrete
deriving DecidableEq, Repr

/-- The name of a part. -/
def SyntaxPart.name : SyntaxPart → String
  | abstract => "abstract"
  | concrete => "concrete"

/-- What the text of a part is read as. -/
def SyntaxPart.kind : SyntaxPart → DocumentKind
  | abstract => .abstractSyntax
  | concrete => .concreteSyntax

/-- Why a language definition cannot be turned into its other form. -/
inductive SyntaxError where
  /-- A document is no JSON, or not that of its part. -/
  | json (part : SyntaxPart) (text : String)
  | duplicateElement (name : String)
  | duplicateRelationship (name : String)
  /-- A relationship starts or ends at a type of elements that is not declared. -/
  | unknownEndpoint (relationship endpoint : String)
  /-- A restriction is about a type of elements that is not declared. -/
  | unknownRestrictionElement (restriction name : String)
  /-- The concrete syntax has a rule for a type that is not declared; `kind` says whether of
  elements or of relationships. -/
  | undeclaredType (kind name : String)
deriving DecidableEq, Repr

/-- What is wrong, in words. -/
def SyntaxError.message (w : Wording) : SyntaxError → String
  | json part text => part.name ++ " syntax is not valid: " ++ w.refusal part.kind text
  | duplicateElement name => "duplicate element type: " ++ name
  | duplicateRelationship name => "duplicate relationship type: " ++ name
  | unknownEndpoint relationship endpoint =>
    "relationship " ++ relationship ++ " refers to undeclared element " ++ endpoint
  | unknownRestrictionElement restriction name =>
    restriction ++ " restriction refers to undeclared element " ++ name
  | undeclaredType kind name => "concrete syntax styles undeclared " ++ kind ++ " " ++ name

end Atelier

/-
The configuration of a studio, from variables.

A variable that is absent has a default.  One that is there and cannot be read is an error.
-/
import Atelier.Decimal.Literal
import Atelier.Text.Blank
import Atelier.Text.Quoted

namespace Atelier

/-- The configuration of a studio. -/
structure Config where
  /-- The base URL of the service that publishes semantics, without a slash at its end. -/
  backendUrl : String := "http://localhost:4000"
  /-- How many entries a page of the catalog has. -/
  pageSize : Nat := 20
  /-- How long search input waits, in milliseconds. -/
  searchDebounce : Nat := 500
  canvasWidth : Nat := 500
  canvasHeight : Nat := 500
deriving DecidableEq, Repr

/-- Why there is no configuration. -/
inductive ConfigError where
  | invalid (key value : String)
deriving DecidableEq, Repr

/-- What is wrong, in words. -/
def ConfigError.message : ConfigError → String
  | invalid key value => "invalid value for " ++ key ++ ": " ++ quoted value

namespace Config

/-- Variables by name. -/
abbrev Lookup := String → Option String

/-- The name of the variable with the base URL of the service. -/
def backendUrlKey : String := "LANGSTUDIO_BACKEND_URL"

/-- The name of the variable with the number of entries on a page. -/
def pageSizeKey : String := "LANGSTUDIO_PAGE_SIZE"

/-- The name of the variable with the time that search input waits. -/
def searchDebounceKey : String := "LANGSTUDIO_SEARCH_DEBOUNCE_MS"

/-- The name of the variable with the width of the canvas. -/
def canvasWidthKey : String := "LANGSTUDIO_CANVAS_WIDTH"

/-- The name of the variable with the height of the canvas. -/
def canvasHeightKey : String := "LANGSTUDIO_CANVAS_HEIGHT"

/-- The names of all variables of a configuration. -/
def keys : List String :=
  [backendUrlKey, pageSizeKey, searchDebounceKey, canvasWidthKey, canvasHeightKey]

/-- A text without the slashes it ends with. -/
def dropSlashes (text : List Char) : String :=
  String.ofList (dropEnd (· = '/') text)

/-- The base URL in a variable; a blank one is as good as absent. -/
def backendUrlOf (value : Option String) : String :=
  match value.map fun url => dropSlashes (trim url.toList) with
  | some url => if url.isEmpty then ({} : Config).backendUrl else url
  | none => ({} : Config).backendUrl

/-- The number below `bound` in a variable, with white space around it. -/
def number (lookup : Lookup) (key : String) (bound default : Nat) : Except ConfigError Nat :=
  match lookup key with
  | none => .ok default
  | some value =>
    match readUnsigned? bound (trim value.toList) with
    | some n => .ok n
    | none => .error (.invalid key value)

/-- The configuration in variables.  A page has at least one entry, which is checked last. -/
def read (lookup : Lookup) : Except ConfigError Config := do
  let config : Config := {
    backendUrl := backendUrlOf (lookup backendUrlKey)
    pageSize := ← number lookup pageSizeKey UInt32.size ({} : Config).pageSize
    searchDebounce := ← number lookup searchDebounceKey UInt64.size ({} : Config).searchDebounce
    canvasWidth := ← number lookup canvasWidthKey UInt32.size ({} : Config).canvasWidth
    canvasHeight := ← number lookup canvasHeightKey UInt32.size ({} : Config).canvasHeight }
  if config.pageSize = 0 then .error (.invalid pageSizeKey "0") else .ok config

end Config

end Atelier

/-
What a command needs of the system it runs on, and how it can fail.
-/
import Atelier.Catalog.Basic
import Atelier.Config
import Atelier.Language.Error
import Atelier.Semantics.Document
import Atelier.Snapshot.Error

namespace Atelier

/-- What a command needs of the system it runs on. -/
class Host (m : Type → Type) where
  /-- The value of a variable that is set. -/
  setting? : String → m (Option String)
  /-- The bytes of a file, or why it cannot be read. -/
  readBytes : String → m (Except String ByteArray)
  /-- Writes a text to a file, or says why it cannot be written. -/
  writeText : String → String → m (Except String Unit)
  /-- Prints a text and ends the line. -/
  printLine : String → m Unit
  /-- The body of the answer to a request. -/
  fetch : Url → m (Except FetchError String)

/-- Why a command did not do what it was to do. -/
inductive CommandError where
  /-- The arguments are not those of a command. -/
  | usage
  | read (path reason : String)
  | write (path reason : String)
  /-- The graph is no JSON, or not that of a definition. -/
  | json (text : String)
  | config (error : ConfigError)
  | language (error : SyntaxError)
  | semantics (error : SemanticsError)
  | snapshot (error : SnapshotError)
  | catalog (error : CatalogError)
deriving DecidableEq, Repr

namespace CommandError

/-- How the program is called. -/
def usageLines : List String :=
  ["usage: [--backend-url URL] COMMAND",
   "",
   "  to-text GRAPH [--abstract-out FILE] [--concrete-out FILE]",
   "  to-graph ABSTRACT [CONCRETE]",
   "  semantics GRAPH [--existing FILE]",
   "  shapes SNAPSHOT --to json|xml",
   "  catalog [--search TEXT] [--pages N] [--select ID]"]

/-- What is wrong, in words. -/
def message (w : Wording) : CommandError → String
  | usage => "\n".intercalate usageLines
  | read path reason => "cannot read " ++ path ++ ": " ++ reason
  | write path reason => "cannot write " ++ path ++ ": " ++ reason
  | json text => "invalid JSON: " ++ w.refusal .model text
  | config error => error.message
  | language error => error.message w
  | semantics error => error.message w
  | snapshot error => error.message w
  | catalog error => error.message w

/-- The status with which the program ends. -/
def exitCode : CommandError → UInt32
  | usage => 2
  | _ => 1

end CommandError

end Atelier

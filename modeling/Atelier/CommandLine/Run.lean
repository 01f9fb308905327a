/-
The commands of the command line, for any host.
-/
import Atelier.CommandLine.Arguments
import Atelier.CommandLine.Host
import Atelier.CommandLine.Variables
import Atelier.Semantics.Edit

namespace Atelier.CommandLine

variable {m : Type → Type} [Monad m] [Host m]

/-- The result of a part of a command, an error of its own kind made one of the command. -/
def orError {ε α : Type} (error : ε → CommandError) (result : Except ε α) :
    ExceptT CommandError m α :=
  ExceptT.mk (pure (result.mapError error))

/-! ## Files and lines -/

/-- The text of a file. -/
def readText (path : String) : ExceptT CommandError m String := do
  match ← liftM (m := m) (Host.readBytes path) with
  | .error reason => throw (.read path reason)
  | .ok bytes =>
    match String.fromUTF8? bytes with
    | some text => return text
    | none => throw (.read path "stream did not contain valid UTF-8")

/-- The definition in a file. -/
def readModel (path : String) : ExceptT CommandError m Model := do
  let text ← readText path
  match Model.parse? text with
  | some model => return model
  | none => throw (.json text)

/-- Prints a text and ends the line. -/
def print (text : String) : ExceptT CommandError m Unit :=
  liftM (m := m) (Host.printLine text)

/-- Writes a text to a file, or prints it if there is none. -/
def emit (path : Option String) (text : String) : ExceptT CommandError m Unit :=
  match path with
  | none => print text
  | some path => do
    match ← liftM (m := m) (Host.writeText path text) with
    | .ok () => return ()
    | .error reason => throw (.write path reason)

/-! ## Commands -/

/-- Writes the abstract and the concrete syntax of a graph. -/
def toText (graph : String) (abstractOut concreteOut : Option String) :
    ExceptT CommandError m Unit := do
  let text ← orError .language (← readModel graph).toText
  emit abstractOut text.abstract
  emit concreteOut text.concrete

/-- Prints the graph of an abstract and a concrete syntax. -/
def toGraph (abstract : String) (concrete : Option String) : ExceptT CommandError m Unit := do
  let abstract ← readText abstract
  let concrete ← match concrete with
    | some path => readText path
    | none => pure ""
  let model ← orError .language (Model.ofText ⟨abstract, concrete⟩)
  print model.text

/-- Prints a usable semantics for a graph: the existing one if it can be used. -/
def semantics (graph : String) (existing : Option String) : ExceptT CommandError m Unit := do
  let session := Session.ofModel (← readModel graph)
  let session ← match existing with
    | some path => pure { session with semantics := ← readText path }
    | none => pure session
  let (session, result) := session.prepare
  let _ ← orError .semantics result
  print session.semantics

/-- Prints a snapshot in a format. -/
def shapes (input : String) (format : SnapshotFormat) : ExceptT CommandError m Unit := do
  let sheet ← orError .snapshot (Sheet.ofText (← readText input))
  print (sheet.textIn format)

/-- The line that lists an entry. -/
def entryLine (e : Entry) : String :=
  toString e.id ++ "\t" ++ e.label

/-- Lists published semantics in the order of their names, or prints a selected one. -/
def catalog (config : Config) (search : Option String) (pages : Nat) (select : Option String) :
    ExceptT CommandError m Unit := do
  let start := Catalog.new config.pageSize
  let start := match search with
    | some search => start.setSearch search
    | none => start
  let (loaded, result) ← liftM (m := m) (start.loadPages Host.fetch config.backendUrl pages)
  orError .catalog result
  match select with
  | some value =>
    let text ← orError .catalog (loaded.select value).2
    print text
  | none => (Entry.sortByName loaded.entries).forM fun e => print (entryLine e)

/-- Does what a command says. -/
def execute (config : Config) : Command → ExceptT CommandError m Unit
  | .toText graph abstractOut concreteOut => toText graph abstractOut concreteOut
  | .toGraph abstract concrete => toGraph abstract concrete
  | .semantics graph existing => semantics graph existing
  | .shapes input format => shapes input format
  | .catalog search pages select => catalog config search pages select

/-! ## The program -/

/-- The name of the file that sets variables. -/
def variablesFile : String := ".env"

/-- The text of lines up to the first that is not UTF-8. -/
def readableLines (bytes : ByteArray) : String :=
  let lines (state : List String × ByteArray × Bool) (b : UInt8) :=
    let (done, line, sound) := state
    let line := line.push b
    if b ≠ 10 then (done, line, sound)
    else
      match sound, String.fromUTF8? line with
      | true, some text => (text :: done, ByteArray.empty, true)
      | _, _ => (done, ByteArray.empty, false)
  let (done, line, sound) := bytes.toList.foldl lines ([], ByteArray.empty, true)
  let last := if sound then (String.fromUTF8? line).getD "" else ""
  String.join (last :: done).reverse

/-- The variables that a configuration is read from: those of the host, and those of a file for
which the host has none. -/
def settings : m (List (String × String)) := do
  let bytes ← Host.readBytes variablesFile
  let file := Variables.parse (readableLines (bytes.toOption.getD ByteArray.empty))
  let names := Config.keys ++ file.map (·.name) ++ Variables.references file
  let set ← names.mapM fun name => do
    return (← Host.setting? name).map (name, ·)
  return Variables.withFile (set.filterMap id) file

/-- A configuration with the base URL that an option gives, or else the host's variable, which
is taken as it is but for the slashes at its end. -/
def withBackend (config : Config) (option setting : Option String) : Config :=
  match option <|> setting with
  | some url => { config with backendUrl := Config.dropSlashes url.toList }
  | none => config

/-- Runs the program with arguments. -/
def run (args : List String) : ExceptT CommandError m Unit := do
  match Arguments.parse? args with
  | none => throw .usage
  | some arguments =>
    let set ← liftM (m := m) settings
    let config ← orError .config (Config.read (set.lookup ·))
    let url ← liftM (m := m) (Host.setting? Config.backendUrlKey)
    execute (withBackend config arguments.backendUrl url) arguments.command

end Atelier.CommandLine

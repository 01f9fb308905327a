/-
The arguments of the command line.

An option is given once, as `--name value` or `--name=value`, before or after the other
arguments of its command.  After `--` nothing is an option.
-/
import Atelier.Snapshot.Detect
import Atelier.Decimal.Literal

namespace Atelier

/-- What is to be done. -/
inductive Command where
  /-- Writes the textual form of a graph. -/
  | toText (graph : String) (abstractOut concreteOut : Option String)
  /-- Writes the graph of a textual form. -/
  | toGraph (abstract : String) (concrete : Option String)
  /-- Writes a usable semantics for a graph. -/
  | semantics (graph : String) (existing : Option String)
  /-- Writes a snapshot in a format. -/
  | shapes (input : String) (format : SnapshotFormat)
  /-- Lists published semantics, or writes one of them. -/
  | catalog (search : Option String) (pages : Nat) (select : Option String)
deriving DecidableEq, Repr

/-- The arguments of the command line. -/
structure Arguments where
  /-- The base URL of the service, if it is given as an option. -/
  backendUrl : Option String
  command : Command
deriving DecidableEq, Repr

namespace Arguments

/-! ## Options and other arguments -/

/-- The options of a command by name, and its other arguments in order. -/
structure Given where
  options : List (String × String) := []
  others : List String := []
deriving DecidableEq, Repr

/-- Whether an argument has the form of an option. -/
def isOption (arg : String) : Bool :=
  arg.toList.head? = some '-' && arg.toList ≠ ['-']

/-- The name of an option and the value written behind it. -/
def optionParts? (arg : String) : Option (String × Option String) :=
  match arg.toList with
  | '-' :: '-' :: rest =>
    let name := String.ofList (rest.takeWhile (· ≠ '='))
    match rest.dropWhile (· ≠ '=') with
    | _ :: value => some (name, some (String.ofList value))
    | [] => some (name, none)
  | _ => none

namespace Given

/-- Another argument in front. -/
def addOther (arg : String) (g : Given) : Given :=
  { g with others := arg :: g.others }

/-- An option in front, unless it is given again behind. -/
def addOption (name value : String) (g : Given) : Option Given :=
  if (g.options.lookup name).isSome then none
  else some { g with options := (name, value) :: g.options }

/-- The value of an option. -/
def option? (g : Given) (name : String) : Option String :=
  g.options.lookup name

/-- The options and other arguments of a command that has the options `known`.  `waiting` is an
option whose value comes next. -/
def read? (known : List String) : (waiting : Option String) → List String → Option Given
  | none, [] => some {}
  | some _, [] => none
  | some name, arg :: rest =>
    if isOption arg then none
    else do addOption name arg (← read? known none rest)
  | none, arg :: rest =>
    if arg = "--" then some { others := rest }
    else if !isOption arg then do
      let g ← read? known none rest
      some (g.addOther arg)
    else do
      let (name, value) ← optionParts? arg
      if !known.contains name then none
      else
        match value with
        | some value => addOption name value (← read? known none rest)
        | none => read? known (some name) rest

end Given

/-! ## Values -/

/-- The name of a file, which is not empty. -/
def path? (arg : String) : Option String :=
  if arg.isEmpty then none else some arg

/-- The name of a file in an option that may be absent. -/
def optionalPath? : Option String → Option (Option String)
  | none => some none
  | some arg => (path? arg).map some

/-- A number of pages: an integer, with a sign or not, from zero to below `2 ^ 32`. -/
def pages? (arg : String) : Option Nat :=
  match arg.toList with
  | '-' :: digits =>
    if digits.isEmpty || !digits.all (· = '0') then none else some 0
  | text => readUnsigned? UInt32.size text

/-! ## Commands -/

/-- The command with a name and arguments. -/
def command? (name : String) (args : List String) : Option Command :=
  match name with
  | "to-text" => do
    let g ← Given.read? ["abstract-out", "concrete-out"] none args
    match g.others with
    | [graph] =>
      return .toText (← path? graph) (← optionalPath? (g.option? "abstract-out"))
        (← optionalPath? (g.option? "concrete-out"))
    | _ => none
  | "to-graph" => do
    let g ← Given.read? [] none args
    match g.others with
    | [abstract] => return .toGraph (← path? abstract) none
    | [abstract, concrete] => return .toGraph (← path? abstract) (some (← path? concrete))
    | _ => none
  | "semantics" => do
    let g ← Given.read? ["existing"] none args
    match g.others with
    | [graph] => return .semantics (← path? graph) (← optionalPath? (g.option? "existing"))
    | _ => none
  | "shapes" => do
    let g ← Given.read? ["to"] none args
    match g.others with
    | [input] => return .shapes (← path? input) (← (g.option? "to").bind SnapshotFormat.ofName?)
    | _ => none
  | "catalog" => do
    let g ← Given.read? ["search", "pages", "select"] none args
    match g.others with
    | [] =>
      let pages ← match g.option? "pages" with
        | none => some 1
        | some text => pages? text
      return .catalog (g.option? "search") pages (g.option? "select")
    | _ => none
  | _ => none

/-- The name of the option with the base URL of the service. -/
def backendOption : String := "backend-url"

/-- The arguments of the command line.  The first that is no option names the command. -/
def parse? (args : List String) : Option Arguments :=
  match args with
  | [] => none
  | arg :: rest =>
    if !isOption arg then (command? arg rest).map (⟨none, ·⟩)
    else
      match optionParts? arg, rest with
      | some (name, some url), command :: rest =>
        if name = backendOption && !isOption command then
          (command? command rest).map (⟨some url, ·⟩)
        else none
      | some (name, none), url :: command :: rest =>
        if name = backendOption && !isOption url && !isOption command then
          (command? command rest).map (⟨some url, ·⟩)
        else none
      | _, _ => none

end Arguments

end Atelier

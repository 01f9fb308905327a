/-
Files that set variables.

A line is `NAME=value`.  A value may be in single quotes, where nothing is special, or in
double quotes; outside single quotes a backslash escapes and a dollar sign refers to another
variable.  A quoted value may go on over several lines.  What follows the first line that
cannot be read is not read.
-/
import Atelier.Text.Blank

namespace Atelier.Variables

/-- A part of a value. -/
inductive Part where
  | char (c : Char)
  /-- The value of another variable. -/
  | reference (name : String)
deriving DecidableEq, Repr

/-- A variable with the parts of its value. -/
structure Assignment where
  name : String
  value : List Part
deriving DecidableEq, Repr

/-! ## Lines -/

/-- Where in a line a reader is that looks for its end. -/
inductive Place where
  | plain
  /-- Behind white space. -/
  | blank
  /-- Behind a backslash. -/
  | escape
  /-- Between single quotes, and there behind a backslash. -/
  | single
  | singleEscape
  /-- Between double quotes, and there behind a backslash. -/
  | double
  | doubleEscape
deriving DecidableEq, Repr

/-- The place behind a character, or nothing if a comment starts with it. -/
def Place.step (place : Place) (c : Char) : Option Place :=
  match place with
  | plain =>
    if isBlank c && c ≠ '\n' && c ≠ '\r' then some blank
    else if c = '\\' then some escape
    else if c = '"' then some double
    else if c = '\'' then some single
    else some plain
  | blank =>
    if c = '#' then none
    else if c = '\\' then some escape
    else if c = '"' then some double
    else if c = '\'' then some single
    else some plain
  | escape => some plain
  | single =>
    if c = '\\' then some singleEscape else if c = '\'' then some plain else some single
  | singleEscape => some single
  | double =>
    if c = '\\' then some doubleEscape else if c = '"' then some plain else some double
  | doubleEscape => some double

/-- A line up to a comment, and the place behind it. -/
def Place.scan (place : Place) : List Char → List Char × Place
  | [] => ([], place)
  | c :: rest =>
    match place.step c with
    | none => ([], plain)
    | some next =>
      let (text, final) := next.scan rest
      (c :: text, final)

/-- Lines joined where a quote or an escape goes on, without comments.  Nothing stands for a
last line that does not end. -/
def joinLines (before : List Char) (place : Place) : List (List Char) → List (Option (List Char))
  | [] => if place = .plain then [] else [none]
  | line :: rest =>
    if (trimStart (before ++ line)).head? = some '#' then joinLines [] .plain rest
    else
      let (text, place) := place.scan line
      if place = .plain then some (before ++ text) :: joinLines [] .plain rest
      else joinLines (before ++ text) place rest

/-- The lines of a text, each with the end of the line. -/
def splitLines : List Char → List (List Char)
  | [] => []
  | c :: rest =>
    match c, splitLines rest with
    | '\n', lines => ['\n'] :: lines
    | c, [] => [[c]]
    | c, line :: lines => (c :: line) :: lines

/-! ## Values -/

/-- Where in a value a reader is. -/
inductive Mode where
  /-- In plain text, or between double quotes if `quoted`. -/
  | text (quoted : Bool)
  /-- Behind a backslash. -/
  | escape (quoted : Bool)
  | single
  /-- In a name behind a dollar sign, the last character first. -/
  | name (quoted : Bool) (chars : List Char)
  /-- In a name between braces, the last character first. -/
  | braces (quoted : Bool) (chars : List Char)
  /-- Behind the value, where only a comment may follow. -/
  | finished
  | comment
deriving DecidableEq, Repr

/-- Whether a character belongs to a name behind a dollar sign: a letter or a digit, and here
every character outside ASCII that is not white space. -/
def isNameChar (c : Char) : Bool :=
  c.isAlphanum || (0xC0 ≤ c.toNat && !isBlank c)

/-- A reference to the variable with a name, the last character first. -/
def referenceTo (chars : List Char) : List Part :=
  if chars.isEmpty then [] else [.reference (String.ofList chars.reverse)]

/-- The mode behind a character, and the parts that are complete with it. -/
def Mode.step (mode : Mode) (c : Char) : Option (Mode × List Part) :=
  match mode with
  | text quoted =>
    if c = '$' then some (name quoted [], [])
    else if c = '\\' then some (escape quoted, [])
    else if c = '"' then some (text !quoted, [])
    else if quoted then some (text true, [.char c])
    else if c = '\'' then some (single, [])
    else if c = ' ' || c = '\t' then some (finished, [])
    else some (text false, [.char c])
  | escape quoted =>
    if ['\\', '\'', '"', '$', ' '].contains c then some (text quoted, [.char c])
    else if c = 'n' then some (text quoted, [.char '\n'])
    else none
  | single => if c = '\'' then some (text false, []) else some (single, [.char c])
  | name quoted chars =>
    if isNameChar c then some (name quoted (c :: chars), [])
    else if c = '\x7b' && chars.isEmpty then some (braces quoted [], [])
    else if c = '$' then some (name quoted [], referenceTo chars)
    else some (text quoted, referenceTo chars ++ [.char c])
  | braces quoted chars =>
    if c = '\x7d' then some (text quoted, referenceTo chars)
    else some (braces quoted (c :: chars), [])
  | finished =>
    if c = ' ' || c = '\t' then some (finished, [])
    else if c = '#' then some (comment, [])
    else none
  | comment => some (comment, [])

/-- The parts of a value from a mode on. -/
def Mode.read? (mode : Mode) : List Char → Option (List Part)
  | [] =>
    match mode with
    | text quoted | escape quoted => if quoted then none else some []
    | name quoted chars => if quoted then none else some (referenceTo chars)
    | single | braces .. => none
    | finished | comment => some []
  | c :: rest => do
    let (next, parts) ← mode.step c
    let later ← next.read? rest
    some (parts ++ later)

/-! ## Assignments -/

/-- A name and what follows it. -/
def splitName? (text : List Char) : Option (String × List Char) :=
  let isInner (c : Char) := c.isAlphanum || c = '_' || c = '.'
  match text with
  | c :: _ =>
    if c.isAlpha || c = '_' then
      some (String.ofList (text.takeWhile isInner), text.dropWhile isInner)
    else none
  | [] => none

/-- What follows an equals sign with white space in front. -/
def afterEquals? (text : List Char) : Option (List Char) :=
  match trimStart text with
  | '=' :: rest => some rest
  | _ => none

/-- The assignment in a line, if there is one; a line that is neither blank nor a comment has to
be one.  The word `export` may stand in front. -/
def readLine? (line : List Char) : Option (Option Assignment) :=
  let text := trim line
  if text.isEmpty || text.head? = some '#' then some none
  else do
    let (first, rest) ← splitName? text
    let (name, rest) ←
      match afterEquals? rest with
      | some rest => some (first, rest)
      | none =>
        if first = "export" then do
          let (name, rest) ← splitName? (trimStart rest)
          some (name, ← afterEquals? rest)
        else none
    let value := trimStart rest
    if value.isEmpty || value.head? = some '#' then some (some ⟨name, []⟩)
    else do
      let value ← (Mode.text false).read? value
      some (some ⟨name, value⟩)

/-- The assignments in lines, up to the first line that cannot be read. -/
def readLines : List (Option (List Char)) → List Assignment
  | [] | none :: _ => []
  | some line :: rest =>
    match readLine? line with
    | none => []
    | some none => readLines rest
    | some (some a) => a :: readLines rest

/-- The assignments in a text.  A byte order mark in front is passed over. -/
def parse (text : String) : List Assignment :=
  let text := match text.toList with
    | '\uFEFF' :: rest => rest
    | text => text
  readLines (joinLines [] .plain (splitLines text))

/-! ## Values of variables -/

/-- The variables that values refer to. -/
def references (assignments : List Assignment) : List String :=
  assignments.flatMap fun a => a.value.filterMap fun
    | .char _ => none
    | .reference name => some name

/-- The text of a part, where a variable that is not set is empty. -/
def Part.text (set : List (String × String)) : Part → List Char
  | char c => [c]
  | reference name => ((set.lookup name).getD "").toList

/-- The text of a value. -/
def Assignment.text (set : List (String × String)) (a : Assignment) : String :=
  String.ofList (a.value.flatMap (Part.text set))

/-- Variables with those of a file.  A variable that is set already stays as it is. -/
def withFile (set : List (String × String)) (file : List Assignment) : List (String × String) :=
  file.foldl (fun set a =>
    if (set.lookup a.name).isSome then set else set ++ [(a.name, a.text set)]) set

end Atelier.Variables

/-
URLs: their parts, their text, and the two ways in which a request is made from a base.

`Url.extend` puts segments after the path, and `Url.withFields` puts fields after the query.
-/
import Atelier.Url.Host

namespace Atelier

/-- Who asks, and whom. -/
structure Url.Authority where
  /-- The name of the user, empty if there is none. -/
  user : String
  password : String
  host : Url.Host
  /-- The number behind the host, if it is not the usual one of the scheme. -/
  portNumber : Option Nat
deriving DecidableEq, Repr

/-- The path of a URL. -/
inductive Url.Path where
  /-- A text without structure. -/
  | whole (text : String)
  /-- What stands behind each slash. -/
  | segments (list : List String)
deriving DecidableEq, Repr

/-- A URL.  All texts stand as they are written, percent-encoded. -/
structure Url where
  scheme : String
  authority : Option Url.Authority
  /-- Whether `/.` stands before the path, which would be taken for an authority without it. -/
  guarded : Bool
  path : Url.Path
  query : Option String
  fragment : Option String
deriving DecidableEq, Repr

namespace Url

/-! ## Schemes -/

/-- Whether the hosts of a scheme are names and its paths always start with a slash. -/
def isWeb (scheme : String) : Bool :=
  ["http", "https", "ws", "wss", "ftp", "file"].contains scheme

/-- The number that is meant where a scheme gives none behind the host. -/
def usualPortNumber? : String → Option Nat
  | "http" | "ws" => some 80
  | "https" | "wss" => some 443
  | "ftp" => some 21
  | _ => none

/-! ## Paths -/

/-- Whether a segment names a drive. -/
def isDrive : List Char → Bool
  | [letter, mark] => letter.isAlpha && (mark = ':' || mark = '|')
  | _ => false

/-- Whether a segment names a drive and what follows is set off by a backslash. -/
def startsWithDrive (segment : List Char) : Bool :=
  isDrive (segment.take 2) && (segment.drop 2).head?.all (· = '\\')

/-- Whether a segment stands for the directory it is in. -/
def isHere (segment : List Char) : Bool :=
  [".", "%2e"].contains (String.ofList (segment.map Char.toLower))

/-- Whether a segment stands for the directory above. -/
def isAbove (segment : List Char) : Bool :=
  ["..", ".%2e", "%2e.", "%2e%2e"].contains (String.ofList (segment.map Char.toLower))

/-- A path one level up.  A drive is not left. -/
def oneUp (path : List String) : List String :=
  if path.getLast?.any fun s => startsWithDrive s.toList then path else path.dropLast

/-- Whether a segment names the drive that a file is on. -/
def isRootDrive (file : Bool) (path : List String) (segment : List Char) : Bool :=
  file && path.isEmpty && isDrive segment

/-- A path with one more segment; `final` says that no slash follows it.  The first segment of
a file's path names a drive with a colon. -/
def enter (file final : Bool) (path : List String) (segment : List Char) : List String :=
  let ending := if final then [""] else []
  if isAbove segment then oneUp path ++ ending
  else if isHere segment then path ++ ending
  else if isRootDrive file path segment then path ++ [String.ofList (segment.take 1 ++ [':'])]
  else path ++ [String.ofList segment]

/-- A drive and what follows it, if there is a tab or an end of a line between them. -/
def splitDrive? (text : List Char) : Option (List Char × List Char) :=
  match text.dropWhile isBreak with
  | letter :: text =>
    match text.dropWhile isBreak with
    | ':' :: text =>
      if letter.isAlpha && text.head?.any isBreak && !(withoutBreaks text).isEmpty then
        some ([letter, ':'], withoutBreaks text)
      else none
    | _ => none
  | [] => none

/-- A path with one more segment, which is given with tabs and ends of lines in it and without
percent signs for the characters that are `special`.  On the drive of a file, a tab or the end of
a line ends the segment as a slash does, and what follows has no meaning of its own. -/
def enterText (special : Char → Bool) (file final : Bool) (path : List String)
    (text : List Char) : List String :=
  match if file && path.isEmpty then splitDrive? text else none with
  | some (drive, rest) =>
    [String.ofList drive, String.ofList (percentEncode special rest)]
  | none => enter file final path (percentEncode special (withoutBreaks text))

/-- A file's path without empty segments at its start. -/
def dropEmptyStart : List String → List String
  | "" :: segment :: rest => dropEmptyStart (segment :: rest)
  | path => path

/-- The path of a file is kept without empty segments at its start. -/
def settlePath (file : Bool) (path : List String) : List String :=
  if file then dropEmptyStart path else path

/-! ## Text -/

/-- The text of a user and a password, if there is any. -/
def Authority.userText (a : Authority) : List Char :=
  let password := if a.password.isEmpty then [] else ':' :: a.password.toList
  let text := a.user.toList ++ password
  if text.isEmpty then [] else text ++ ['@']

/-- The text of an authority. -/
def Authority.text (a : Authority) : List Char :=
  let number := match a.portNumber with
    | some n => ':' :: naturalText n
    | none => []
  a.userText ++ a.host.text ++ number

/-- The text of a path. -/
def Path.text : Path → List Char
  | whole text => text.toList
  | segments list => list.flatMap fun s => '/' :: s.toList

/-- The text of the scheme, the host and its number: who is asked. -/
def origin (u : Url) : String :=
  let place := match u.authority with
    | some a => ({ a with user := "", password := "" } : Authority).text
    | none => []
  String.ofList (u.scheme.toList ++ ':' :: '/' :: '/' :: place)

/-- The path and what follows it, up to the fragment: what is asked of a server. -/
def target (u : Url) : List Char :=
  let query := match u.query with
    | some q => '?' :: q.toList
    | none => []
  u.path.text ++ query

/-- The text of a URL. -/
def text (u : Url) : String :=
  let authority := match u.authority with
    | some a => '/' :: '/' :: a.text
    | none => []
  let guard := if u.guarded then ['/', '.'] else []
  let fragment := match u.fragment with
    | some f => '#' :: f.toList
    | none => []
  String.ofList (u.scheme.toList ++ ':' :: (authority ++ guard ++ u.target ++ fragment))

/-! ## Requests from a base -/

/-- A path without the empty segment after its last slash.  The path `/` stays. -/
def dropEmptyEnd (path : List String) : List String :=
  if path.length ≥ 2 && path.getLast? = some "" then path.dropLast else path

/-- A path with one more segment, which replaces the empty segment of the path `/`.  Tabs and
ends of lines are left out, and a segment that is one or two points is passed over. -/
def addSegment (scheme : String) (path : List String) (segment : String) : List String :=
  if segment = "." || segment = ".." then path
  else
    let file := scheme = "file"
    settlePath file
      (enterText (segmentSpecial (isWeb scheme)) file true (if path = [""] then [] else path)
        segment.toList)

/-- The URL with segments after its path, or nothing if the path has no structure. -/
def extend (u : Url) (added : List String) : Option Url :=
  match u.path with
  | .whole _ => none
  | .segments path =>
    some { u with path := .segments (added.foldl (addSegment u.scheme) (dropEmptyEnd path)) }

/-- A query with a field after it. -/
def addField (query : String) (field : String × String) : String :=
  let text := fieldText field.1.toList ++ '=' :: fieldText field.2.toList
  String.ofList (if query.isEmpty then text else query.toList ++ '&' :: text)

/-- The URL with fields after its query. -/
def withFields (u : Url) (fields : List (String × String)) : Url :=
  { u with query := some (fields.foldl addField (u.query.getD "")) }

end Url

end Atelier

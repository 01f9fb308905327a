/-
Reading URLs.

A text is cut at the first `#` and the first `?` before that; the scheme decides how what is
left is read.  A text without a scheme is no URL here, since there is nothing it could be
relative to.
-/
import Atelier.Url.Basic

namespace Atelier.Url

/-! ## Schemes -/

/-- A text without control characters and spaces around it. -/
def unpadded (text : List Char) : List Char :=
  let outside (c : Char) := c.toNat ≤ 0x20
  ((text.dropWhile outside).reverse.dropWhile outside).reverse

/-- A scheme in lower case and what follows its colon. -/
def splitScheme? (text : List Char) : Option (String × List Char) :=
  match cutAt ':' text with
  | (scheme, some after) =>
    match withoutBreaks scheme with
    | first :: rest =>
      if first.isAlpha && rest.all fun c => c.isAlphanum || ['+', '-', '.'].contains c then
        some (String.ofList ((first :: rest).map Char.toLower), after)
      else none
    | [] => none
  | _ => none

/-- Whether a character separates the segments of a path. -/
def isSlash (web : Bool) (c : Char) : Bool :=
  c = '/' || (web && c = '\\')

/-! ## Authorities -/

/-- A host and what follows its colon: the first one outside brackets. -/
def splitHost (inside : Bool) : List Char → List Char × Option (List Char)
  | [] => ([], none)
  | c :: rest =>
    if c = ':' && !inside then ([], some rest)
    else
      let (host, number) := splitHost (c = '[' || (inside && c ≠ ']')) rest
      (c :: host, number)

/-- The number behind a host; the usual one of the scheme is left out. -/
def portNumber? (scheme : String) (digits : List Char) : Option (Option Nat) :=
  if digits.isEmpty then some none
  else do
    let n ← valueIn? 10 digits
    if UInt16.size ≤ n then none
    else if usualPortNumber? scheme = some n then some none
    else some (some n)

/-- The authority that a text starts with, and the rest of the text: a backslash behind the
number starts the path.  `last` says that nothing stands behind the text. -/
def Authority.parse? (scheme : String) (last : Bool) (text : List Char) :
    Option (Authority × List Char) := do
  let (credentials, place) := cutAtLast '@' text
  let (hostText, number) := splitHost false place
  let (user, password) := cutAt ':' (credentials.getD [])
  let written (part : List Char) := String.ofList (percentEncode userSpecial part)
  let (user, password) := (written user, written (password.getD []))
  let unnamed := credentials = some [] && !last
  let afterNumber := (number.getD []).dropWhile Char.isDigit
  if hostText.isEmpty
      && (isWeb scheme || number.isSome || user ≠ "" || password ≠ "" || unnamed) then
    none
  else if !afterNumber.head?.all (· = '\\') then none
  else
    let host ← Host.parse? (isWeb scheme) hostText
    let portNumber ← portNumber? scheme ((number.getD []).takeWhile Char.isDigit)
    some (⟨user, password, host, portNumber⟩, afterNumber)

/-! ## Paths -/

/-- A text without the slash it starts with. -/
def dropSlash (web : Bool) : List Char → List Char
  | c :: rest => if isSlash web c then rest else c :: rest
  | [] => []

/-- The path in a text that stands behind a slash. -/
def readPath (scheme : String) (text : List Char) : List String :=
  let file := scheme = "file"
  let parts := pieces (isSlash (isWeb scheme)) text
  let inner := parts.dropLast.foldl (enterText pathSpecial file false) []
  settlePath file (enterText pathSpecial file true inner (parts.getLast?.getD []))

/-- Whether a file's path starts with a drive, once what is above and what is here is left
out. -/
def startsOnDrive (text : List Char) : Bool :=
  let parts := (pieces (isSlash true) text).map fun part =>
    percentEncode pathSpecial (withoutBreaks part)
  (parts.foldl (fun (found, path) part =>
    (found || isRootDrive true path part, enter true false path part)) (false, [])).1

/-! ## Bodies -/

/-- The authority and the path in a text that starts with an authority.  `last` says that
nothing stands behind the text. -/
def readPlace? (scheme : String) (last : Bool) (text : List Char) :
    Option (Option Authority × Path) := do
  let web := isWeb scheme
  let rest := text.dropWhile (!isSlash web ·)
  let (authority, after) ←
    Authority.parse? scheme (last && rest.isEmpty) (text.takeWhile (!isSlash web ·))
  let rest := after ++ rest
  let path := if rest.isEmpty && !web then [] else readPath scheme (dropSlash web rest)
  some (some authority, .segments path)

/-- The authority of a file that is on a host, or on none. -/
def fileAuthority (host : Host) : Authority :=
  ⟨"", "", host, none⟩

/-- The host of a file; the machine itself is no host. -/
def fileHost? (text : List Char) : Option Host :=
  if text.isEmpty || isDrive text then some (.name "")
  else do
    let host ← Host.parse? true text
    some (if host = .name "localhost" then .name "" else host)

/-- The authority and the path of a file behind two slashes.  A drive has no host. -/
def readFilePlace? (text : List Char) : Option (Option Authority × Path) := do
  let hostText := withoutBreaks (text.takeWhile (!isSlash true ·))
  let rest := text.dropWhile (!isSlash true ·)
  let host ← fileHost? hostText
  if host = .name "" then
    some (some (fileAuthority host),
      .segments (readPath "file" (if isDrive hostText then text else rest)))
  else
    let rest := dropSlash true rest
    let host := if startsOnDrive rest then .name "" else host
    some (some (fileAuthority host), .segments (readPath "file" rest))

/-- The authority and the path of a file. -/
def readFile? (text : List Char) : Option (Option Authority × Path) :=
  let here (path : List Char) :=
    some (some (fileAuthority (.name "")), Path.segments (readPath "file" path))
  match text.dropWhile isBreak with
  | a :: rest =>
    if isSlash true a then
      match rest.dropWhile isBreak with
      | b :: rest' => if isSlash true b then readFilePlace? rest' else here rest
      | [] => here rest
    else here (a :: rest)
  | [] => here []

/-- The authority and the path in what follows a scheme.  `last` says that nothing stands behind
the text. -/
def readBody? (scheme : String) (last : Bool) (text : List Char) :
    Option (Option Authority × Path) :=
  if scheme = "file" then readFile? text
  else
    let text := withoutBreaks text
    if isWeb scheme then readPlace? scheme last (text.dropWhile (isSlash true))
    else
      match text with
      | '/' :: '/' :: rest => readPlace? scheme last rest
      | '/' :: rest => some (none, .segments (readPath scheme rest))
      | rest => some (none, .whole (String.ofList (percentEncode isControl rest)))

/-! ## URLs -/

/-- The URL in a text. -/
def parse? (text : String) : Option Url := do
  let (scheme, rest) ← splitScheme? (unpadded text.toList)
  let (rest, fragment) := cutAt '#' rest
  let (body, query) := cutAt '?' rest
  let (authority, path) ← readBody? scheme (query.isNone && fragment.isNone) body
  let written (special : Char → Bool) (part : List Char) :=
    String.ofList (percentEncode special (withoutBreaks part))
  some {
    scheme, authority
    guarded := authority.isNone && "//".toList.isPrefixOf path.text
    path
    query := query.map (written (querySpecial (isWeb scheme)))
    fragment := fragment.map (written fragmentSpecial) }

end Atelier.Url

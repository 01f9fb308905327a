/-
Reading JSON text, one character at a time.

A `Reader` is a `Mode`, the piece of a token read so far, and a `Builder`, the containers that
are still open.  Nothing recurses, so a text of any depth is read.  `Json.parse` accepts
exactly the texts of the JSON grammar.
-/
import Atelier.Json.Basic
import Atelier.Text.Digits

namespace Atelier.Json

/-! ## Strings -/

/-- An escape that is still being read. -/
inductive Escape where
  /-- Only the backslash so far. -/
  | opened
  /-- A code unit of which `left` digits are missing. -/
  | unit (left : Nat) (value : Nat)
deriving DecidableEq, Repr

/-- A string that is still being read. -/
structure Spelling where
  /-- The characters so far, the last one first. -/
  done : List Char := []
  /-- Whether every surrogate so far has its partner. -/
  sound : Bool := true
  /-- A leading surrogate whose partner has to follow. -/
  high : Option Nat := none
  escape : Option Escape := none
deriving DecidableEq, Repr

namespace Spelling

/-- The next character of the string.  A leading surrogate before it stays without a partner. -/
def push (s : Spelling) (c : Char) : Spelling :=
  { done := c :: s.done, sound := s.sound && s.high.isNone }

/-- A code unit written as an escape. -/
def pushUnit (s : Spelling) (n : Nat) : Spelling :=
  if 0xD800 ≤ n ∧ n < 0xDC00 then
    { s with sound := s.sound && s.high.isNone, high := some n, escape := none }
  else if 0xDC00 ≤ n ∧ n < 0xE000 then
    match s.high with
    | some h =>
      { done := Char.ofNat (0x10000 + (h - 0xD800) * 0x400 + (n - 0xDC00)) :: s.done
        sound := s.sound }
    | none => { s with sound := false, escape := none }
  else s.push (Char.ofNat n)

/-- The text of a string that has ended, if every surrogate has its partner. -/
def text? (s : Spelling) : Option String :=
  if s.sound && s.high.isNone then some (String.ofList s.done.reverse) else none

end Spelling

/-- The character that a backslash and `c` stand for. -/
def unescape? : Char → Option Char
  | '"' => some '"'
  | '\\' => some '\\'
  | '/' => some '/'
  | 'b' => some '\x08'
  | 'f' => some '\x0c'
  | 'n' => some '\n'
  | 'r' => some '\r'
  | 't' => some '\t'
  | _ => none

/-- The string after one more character that does not end it. -/
def Spelling.step (s : Spelling) (c : Char) : Option Spelling :=
  match s.escape with
  | none =>
    if c = '\\' then some { s with escape := some .opened }
    else if c.toNat < 0x20 then none
    else some (s.push c)
  | some .opened =>
    if c = 'u' then some { s with escape := some (.unit 4 0) }
    else (unescape? c).map s.push
  | some (.unit left value) => do
    let d ← hexDigit? c
    if left ≤ 1 then some (s.pushUnit (16 * value + d))
    else some { s with escape := some (.unit (left - 1) (16 * value + d)) }

/-! ## Containers -/

/-- A container that is still open, with what it holds so far, the last first. -/
inductive Frame where
  | items (before : List Json)
  /-- `sound` says whether every key so far can be read, and `key` is the one whose value
  comes next. -/
  | members (before : List (String × Json)) (sound : Bool) (key : String)

/-- What may come next. -/
inductive Expect where
  | value
  /-- A value, or the end of an array that holds nothing yet. -/
  | firstValue
  | key
  /-- A key, or the end of an object that holds nothing yet. -/
  | firstKey
  | colon
  /-- A comma, or the end of the innermost container. -/
  | separator
  /-- White space only. -/
  | nothing (document : Json)

/-- The open containers, the innermost first, and what may come next. -/
structure Builder where
  frames : List Frame
  expect : Expect

/-- A token.  A string with a surrogate that lacks its partner has no text. -/
inductive Token where
  | openArray
  | closeArray
  | openObject
  | closeObject
  | colon
  | comma
  | text (s : Option String)
  | value (v : Json)

/-- Containers may stand this many deep; one that stands deeper cannot be read. -/
def depthLimit : Nat := 127

namespace Builder

/-- Nothing read yet. -/
def start : Builder :=
  ⟨[], .value⟩

/-- A complete value takes its place. -/
def put (frames : List Frame) (v : Json) : Builder :=
  match frames with
  | [] => ⟨[], .nothing v⟩
  | .items before :: rest => ⟨.items (v :: before) :: rest, .separator⟩
  | .members before sound key :: rest =>
    ⟨.members ((key, v) :: before) sound "" :: rest, .separator⟩

/-- The value of a container that has just ended, with the containers around it. -/
def closed (around : List Frame) (v : Json) : Builder :=
  put around (if around.length < depthLimit then v else .unreadable)

/-- A value begins: the tokens that may do so. -/
def takeValue (frames : List Frame) : Token → Option Builder
  | .openArray => some ⟨.items [] :: frames, .firstValue⟩
  | .openObject => some ⟨.members [] true "" :: frames, .firstKey⟩
  | .text (some s) => some (put frames (.str s))
  | .text none => some (put frames .unreadable)
  | .value v => some (put frames v)
  | _ => none

/-- A key of the innermost object. -/
def takeKey : List Frame → Token → Option Builder
  | .members before sound _ :: rest, .text (some s) =>
    some ⟨.members before sound s :: rest, .colon⟩
  | .members before _ _ :: rest, .text none =>
    some ⟨.members before false "" :: rest, .colon⟩
  | _, _ => none

/-- The end of the innermost container, if the token is the one that ends it. -/
def takeClose : List Frame → Token → Option Builder
  | .items before :: rest, .closeArray => some (closed rest (.arr before.reverse))
  | .members before sound _ :: rest, .closeObject =>
    some (closed rest (if sound then .obj before.reverse else .unreadable))
  | _, _ => none

/-- The state after one more token. -/
def take (b : Builder) (t : Token) : Option Builder :=
  match b.expect with
  | .value => takeValue b.frames t
  | .firstValue => takeClose b.frames t <|> takeValue b.frames t
  | .key => takeKey b.frames t
  | .firstKey => takeClose b.frames t <|> takeKey b.frames t
  | .colon =>
    match t with
    | .colon => some ⟨b.frames, .value⟩
    | _ => none
  | .separator =>
    match t, b.frames with
    | .comma, .items _ :: _ => some ⟨b.frames, .value⟩
    | .comma, .members .. :: _ => some ⟨b.frames, .key⟩
    | t, frames => takeClose frames t
  | .nothing _ => none

/-- The document, once nothing may follow. -/
def document? (b : Builder) : Option Json :=
  match b.expect with
  | .nothing v => some v
  | _ => none

end Builder

/-! ## Characters -/

/-- The token that is being read. -/
inductive Mode where
  /-- Between tokens. -/
  | between
  /-- In a word or a number, the last character first. -/
  | word (chars : List Char)
  | number (chars : List Char)
  | string (s : Spelling)

/-- The state of reading a text. -/
structure Reader where
  mode : Mode
  builder : Builder

/-- White space between tokens. -/
def isSpace (c : Char) : Bool :=
  c = ' ' || c = '\t' || c = '\n' || c = '\r'

/-- The characters of numbers. -/
def isNumberChar (c : Char) : Bool :=
  c.isDigit || c = '-' || c = '+' || c = '.' || c = 'e' || c = 'E'

/-- The value of a word. -/
def wordValue? (word : List Char) : Option Json :=
  if word = "null".toList then some .null
  else if word = "true".toList then some (.bool true)
  else if word = "false".toList then some (.bool false)
  else none

namespace Reader

/-- Nothing read yet. -/
def start : Reader :=
  ⟨.between, .start⟩

/-- The token that a single character is. -/
def punctuation? : Char → Option Token
  | '[' => some .openArray
  | ']' => some .closeArray
  | '{' => some .openObject
  | '}' => some .closeObject
  | ':' => some .colon
  | ',' => some .comma
  | _ => none

/-- The state after a character between tokens. -/
def stepBetween (b : Builder) (c : Char) : Option Reader :=
  if isSpace c then some ⟨.between, b⟩
  else if c = '"' then some ⟨.string {}, b⟩
  else if c.isDigit || c = '-' then some ⟨.number [c], b⟩
  else if c.isLower then some ⟨.word [c], b⟩
  else do
    let t ← punctuation? c
    let b ← b.take t
    some ⟨.between, b⟩

/-- The containers once a word or number that is being read has ended. -/
def settle (r : Reader) : Option Builder :=
  match r.mode with
  | .between => some r.builder
  | .word chars => do r.builder.take (.value (← wordValue? chars.reverse))
  | .number chars => do r.builder.take (.value (← Number.read? chars.reverse))
  | .string _ => none

/-- The state after one more character. -/
def step (r : Reader) (c : Char) : Option Reader :=
  match r.mode with
  | .between => stepBetween r.builder c
  | .word chars =>
    if c.isLower then some ⟨.word (c :: chars), r.builder⟩
    else do stepBetween (← r.settle) c
  | .number chars =>
    if isNumberChar c then some ⟨.number (c :: chars), r.builder⟩
    else do stepBetween (← r.settle) c
  | .string s =>
    if c = '"' ∧ s.escape = none then do
      let b ← r.builder.take (.text s.text?)
      some ⟨.between, b⟩
    else do
      let s ← s.step c
      some ⟨.string s, r.builder⟩

/-- The state after a run of characters. -/
def run (r : Reader) (text : List Char) : Option Reader :=
  text.foldlM step r

end Reader

/-- The value of a text that is one JSON value with white space around it. -/
def parse (text : String) : Option Json := do
  let r ← Reader.start.run text.toList
  let b ← r.settle
  b.document?

end Atelier.Json

/-
Reading XML documents, one character at a time.

A `Reader` is a `Mode`, the piece of markup read so far, and a `Builder`, the elements that are
still open.  Names with prefixes are resolved as the namespaces in scope say.  Documents with
a type declaration are refused, so the only references are those to characters and to the five
predefined entities.
-/
import Atelier.Xml.Basic

namespace Atelier.Xml

/-! ## Character data -/

/-- Character data that is still being read. -/
structure Data where
  /-- The characters so far, the last one first. -/
  done : List Char := []
  /-- The name of a reference so far, the last character first. -/
  reference : Option (List Char) := none
  /-- Whether the last character was a carriage return. -/
  returned : Bool := false
  /-- How many closing brackets stand at the end, up to two. -/
  brackets : Nat := 0
deriving DecidableEq, Repr

namespace Data

/-- The data after one more character.  Line breaks become `newline`, and a tab becomes `tab`. -/
def step (newline tab : Char) (d : Data) (c : Char) : Option Data :=
  match d.reference with
  | some name =>
    if c = ';' then (reference? name.reverse).map fun c => { done := c :: d.done }
    else some { d with reference := some (c :: name), returned := false, brackets := 0 }
  | none =>
    if c = '&' then some { done := d.done, reference := some [] }
    else if c = '\n' ∧ d.returned then some { done := d.done }
    else if c = '\r' then some { done := newline :: d.done, returned := true }
    else
      let shown := if c = '\n' then newline else if c = '\t' then tab else c
      some { done := shown :: d.done, brackets := if c = ']' then min 2 (d.brackets + 1) else 0 }

/-- The text of data that has ended, unless a reference has not. -/
def text? (d : Data) : Option String :=
  if d.reference.isNone then some (String.ofList d.done.reverse) else none

end Data

/-! ## Names -/

/-- A name with its prefix, which may be empty. -/
structure QName where
  space : String
  name : String
deriving DecidableEq, Repr

/-- A name from its text: at most one colon, and both parts start as names do. -/
def QName.ofText? (text : List Char) : Option QName :=
  let part (s : List Char) : Bool := !s.contains ':' && s.head?.all isNameStart
  match text.dropWhile (· ≠ ':') with
  | ':' :: name =>
    let space := text.takeWhile (· ≠ ':')
    if part space && part name && !name.isEmpty then
      some ⟨String.ofList space, String.ofList name⟩
    else none
  | _ => if part text && !text.isEmpty then some ⟨"", String.ofList text⟩ else none

/-- Namespaces by prefix, the innermost first. -/
abbrev Scope := List (String × String)

/-- The namespace that the prefix `xml` always has. -/
def xmlSpace : String := "http://www.w3.org/XML/1998/namespace"

/-- The namespace of namespace declarations. -/
def xmlnsSpace : String := "http://www.w3.org/2000/xmlns/"

/-- The prefix that an attribute declares, if it declares one; the default namespace has the
empty prefix. -/
def QName.declares? (q : QName) : Option String :=
  if q.space = "xmlns" then some q.name
  else if q.name = "xmlns" then some ""
  else none

/-- The declarations among the attributes of one element, each prefix once.  The names of the
two built-in namespaces are reserved. -/
def declarations? (attributes : List (QName × String)) : Option Scope :=
  attributes.foldlM (fun declared (q, value) =>
    match q.declares? with
    | none => some declared
    | some space =>
      if value = xmlnsSpace || (space = "xml") != (value = xmlSpace) then none
      else if space ≠ "" && (declared.lookup space).isSome then none
      else if value = xmlSpace then some declared
      else some ((space, value) :: declared)) []

/-- The attributes that declare nothing, with their namespaces.  No two have the same name.  The
prefix `xml` needs no declaration, but it stands for its namespace only here. -/
def resolve? (scope : Scope) (attributes : List (QName × String)) : Option (List Attribute) := do
  let resolved ← (attributes.filter (·.1.declares?.isNone)).mapM fun (q, value) =>
    if q.space = "" then some ⟨none, q.name, value⟩
    else if q.space = "xml" then some ⟨some xmlSpace, q.name, value⟩
    else (scope.lookup q.space).map (⟨some ·, q.name, value⟩)
  let names := resolved.map fun a => (a.space, a.name)
  if names.eraseDups.length = names.length then some resolved else none

/-! ## Elements -/

/-- An element that is still open. -/
structure Frame where
  name : QName
  attributes : List Attribute
  /-- What it holds so far, the last first. -/
  children : List Node
  /-- The namespaces inside it. -/
  scope : Scope

/-- The open elements, the innermost first, and the root once it has ended. -/
structure Builder where
  frames : List Frame := []
  root : Option Node := none

namespace Builder

/-- A complete node takes its place.  Outside the root only elements are kept, and only one. -/
def put (b : Builder) (n : Node) : Option Builder :=
  match b.frames, n with
  | f :: rest, n =>
    some { b with frames := { f with children := n :: f.children } :: rest }
  | [], .element .. => if b.root.isNone then some { b with root := some n } else none
  | [], _ => some b

/-- An element begins. -/
def openElement (b : Builder) (name : QName) (attributes : List (QName × String)) :
    Option Builder := do
  let declared ← declarations? attributes
  let scope := declared ++ ((b.frames.head?.map (·.scope)).getD [])
  let attributes ← resolve? scope attributes
  if name.space = "xmlns" then none
  else if name.space ≠ "" ∧ (scope.lookup name.space).isNone then none
  else if b.frames.isEmpty ∧ b.root.isSome then none
  else some { b with frames := ⟨name, attributes, [], scope⟩ :: b.frames }

/-- The innermost element ends. -/
def closeElement (b : Builder) (name : QName) : Option Builder :=
  match b.frames with
  | f :: rest =>
    if f.name = name then
      { b with frames := rest }.put (.element f.name.name f.attributes f.children.reverse)
    else none
  | [] => none

/-- The root, once it has ended. -/
def root? (b : Builder) : Option Node :=
  if b.frames.isEmpty then b.root else none

end Builder

/-! ## Tags -/

/-- Where in a tag the reader is. -/
inductive TagPart where
  /-- In the element's name, the last character first. -/
  | name (chars : List Char)
  /-- Between attributes; `spaced` says whether after white space. -/
  | gap (spaced : Bool)
  | key (chars : List Char)
  /-- After an attribute's name. -/
  | equals (name : QName)
  /-- After the equals sign. -/
  | quote (name : QName)
  | value (name : QName) (quote : Char) (data : Data)
  /-- After the slash that ends an element without content. -/
  | slash
deriving DecidableEq

/-- A tag that is still being read. -/
structure Tag where
  name : QName
  /-- The attributes so far, the last first. -/
  attributes : List (QName × String)
  part : TagPart

/-- What a character makes of a tag. -/
inductive TagStep where
  | more (tag : Tag)
  /-- The tag has ended; `empty` says whether the element has, too. -/
  | done (tag : Tag) (empty : Bool)

namespace Tag

/-- A tag of which nothing is read yet. -/
def start : Tag :=
  ⟨⟨"", ""⟩, [], .name []⟩

/-- The step between attributes. -/
def stepGap (t : Tag) (spaced : Bool) (c : Char) : Option TagStep :=
  if isSpace c then some (.more { t with part := .gap true })
  else if c = '/' then some (.more { t with part := .slash })
  else if c = '>' then some (.done t false)
  else if spaced ∧ isNameChar c then some (.more { t with part := .key [c] })
  else none

/-- The step after an attribute's name. -/
def stepEquals (t : Tag) (name : QName) (c : Char) : Option TagStep :=
  if isSpace c then some (.more { t with part := .equals name })
  else if c = '=' then some (.more { t with part := .quote name })
  else none

/-- The tag after one more character. -/
def step (t : Tag) (c : Char) : Option TagStep :=
  match t.part with
  | .name chars =>
    if isNameChar c then some (.more { t with part := .name (c :: chars) })
    else do
      let name ← QName.ofText? chars.reverse
      stepGap { t with name } false c
  | .gap spaced => t.stepGap spaced c
  | .key chars =>
    if isNameChar c then some (.more { t with part := .key (c :: chars) })
    else do t.stepEquals (← QName.ofText? chars.reverse) c
  | .equals name => t.stepEquals name c
  | .quote name =>
    if isSpace c then some (.more t)
    else if c = '"' ∨ c = '\'' then some (.more { t with part := .value name c {} })
    else none
  | .value name quote data =>
    if c = quote then do
      let value ← data.text?
      some (.more { t with attributes := (name, value) :: t.attributes, part := .gap false })
    else if c = '<' then none
    else do some (.more { t with part := .value name quote (← data.step ' ' ' ' c) })
  | .slash => if c = '>' then some (.done t true) else none

end Tag

/-! ## Markup -/

/-- What the reader is in the middle of. -/
inductive Mode where
  | text (data : Data)
  /-- After a `<`. -/
  | opened
  /-- After `<!`, with what follows it, the last character first. -/
  | bang (chars : List Char)
  | comment (chars : List Char)
  | cdata (chars : List Char)
  /-- In a processing instruction, after `<?`. -/
  | instruction (chars : List Char)
  /-- In an end tag, after `</`. -/
  | closing (chars : List Char)
  | tag (tag : Tag)

/-- The state of reading a document. -/
structure Reader where
  mode : Mode
  builder : Builder

namespace Reader

/-- Nothing read yet. -/
def start : Reader :=
  ⟨.text {}, {}⟩

/-- Between two pieces of markup. -/
def resume (b : Builder) : Reader :=
  ⟨.text {}, b⟩

/-- The end of a run of text. -/
def endText (b : Builder) (data : Data) : Option Builder :=
  if data.done.isEmpty && data.reference.isNone then some b
  else do b.put (.text (← data.text?))

/-- The end of a processing instruction.  The target `xml` followed by a space is that of the
declaration, which stands only at the very start. -/
def endInstruction (b : Builder) (text : List Char) : Option Builder :=
  if "xml ".toList.isPrefixOf text then none
  else if text.head?.any isNameStart then
    b.put (.instruction (String.ofList (text.takeWhile isNameChar)))
  else none

/-- The end of an end tag: a name, with white space after it. -/
def endClosing (b : Builder) (text : List Char) : Option Builder := do
  let name ← QName.ofText? (text.takeWhile isNameChar)
  if (text.dropWhile isNameChar).all isSpace then b.closeElement name else none

/-- The end of a start tag. -/
def endTag (b : Builder) (t : Tag) (empty : Bool) : Option Builder := do
  let b ← b.openElement t.name t.attributes.reverse
  if empty then b.closeElement t.name else some b

/-- The state after a character of a start tag. -/
def stepTag (b : Builder) (t : Tag) (c : Char) : Option Reader := do
  match ← t.step c with
  | .more t => some ⟨.tag t, b⟩
  | .done t empty => some (resume (← endTag b t empty))

/-- The state after a character of text. -/
def stepText (b : Builder) (data : Data) (c : Char) : Option Reader :=
  if c = '<' then do some ⟨.opened, ← endText b data⟩
  else if b.frames.isEmpty && !isSpace c then none
  else if c = '>' ∧ data.brackets = 2 then none
  else do some ⟨.text (← data.step '\n' '\t' c), b⟩

/-- The state after one more character. -/
def step (r : Reader) (c : Char) : Option Reader :=
  if !isXmlChar c then none
  else
    match r.mode with
    | .text data => stepText r.builder data c
    | .opened =>
      match c with
      | '!' => some ⟨.bang [], r.builder⟩
      | '?' => some ⟨.instruction [], r.builder⟩
      | '/' => some ⟨.closing [], r.builder⟩
      | c => stepTag r.builder .start c
    | .bang chars =>
      let read := (c :: chars).reverse
      if read = "--".toList then some ⟨.comment [], r.builder⟩
      else if read = "[CDATA[".toList then
        if r.builder.frames.isEmpty then none else some ⟨.cdata [], r.builder⟩
      else if read.isPrefixOf "--".toList || read.isPrefixOf "[CDATA[".toList then
        some ⟨.bang (c :: chars), r.builder⟩
      else none
    | .comment chars =>
      match chars with
      | '-' :: '-' :: chars =>
        if c = '>' then do
          some (resume (← r.builder.put (.comment (String.ofList chars.reverse))))
        else none
      | chars => some ⟨.comment (c :: chars), r.builder⟩
    | .cdata chars =>
      match c, chars with
      | '>', ']' :: ']' :: chars => do
        some (resume (← r.builder.put (.text (String.ofList chars.reverse))))
      | c, chars => some ⟨.cdata (c :: chars), r.builder⟩
    | .instruction chars =>
      match c, chars with
      | '>', '?' :: chars => do some (resume (← endInstruction r.builder chars.reverse))
      | c, chars => some ⟨.instruction (c :: chars), r.builder⟩
    | .closing chars =>
      if c = '>' then do some (resume (← endClosing r.builder chars.reverse))
      else some ⟨.closing (c :: chars), r.builder⟩
    | .tag t => stepTag r.builder t c

/-- The state after a run of characters. -/
def run (r : Reader) (text : List Char) : Option Reader :=
  text.foldlM step r

/-- The root, once the text has ended outside all markup. -/
def root? (r : Reader) : Option Node := do
  match r.mode with
  | .text data => (← endText r.builder data).root?
  | _ => none

end Reader

/-! ## The declaration -/

/-- What follows the attribute that a text starts with.  The value may hold anything but `<`. -/
def skipAttribute? (text : List Char) : Option (List Char) := do
  let _ ← QName.ofText? (text.takeWhile isNameChar)
  match (text.dropWhile isNameChar).dropWhile isSpace with
  | '=' :: rest =>
    match rest.dropWhile isSpace with
    | quote :: rest =>
      let inside (c : Char) := c ≠ quote && c ≠ '<'
      if (quote = '"' || quote = '\'') && (rest.takeWhile inside).all isXmlChar then
        match rest.dropWhile inside with
        | c :: rest => if c = quote then some rest else none
        | [] => none
      else none
    | [] => none
  | _ => none

/-- What follows the white space behind an attribute, which only the end of the declaration may
do without. -/
def skipGap? (text : List Char) : Option (List Char) :=
  if text.head?.all isSpace || "?>".toList.isPrefixOf text then some (text.dropWhile isSpace)
  else none

/-- What follows the declaration, given what follows `<?xml`.  There are a version and optionally
an encoding and a mention of standalone, in this order; the names need only start so. -/
def skipDeclaration? (text : List Char) : Option (List Char) := do
  let starts (name : String) (text : List Char) := name.toList.isPrefixOf text
  let text := text.dropWhile isSpace
  let text ← if starts "version" text then skipAttribute? text else none
  let text ← skipGap? text
  let text ← if starts "encoding" text then (skipAttribute? text).bind skipGap? else some text
  let text ← if starts "standalone" text then skipAttribute? text else some text
  match text.dropWhile isSpace with
  | '?' :: '>' :: rest => some rest
  | _ => none

/-! ## Documents -/

/-- A text without the byte order mark that it may start with. -/
def withoutMark : List Char → List Char
  | '\uFEFF' :: text => text
  | text => text

/-- The root of a document. -/
def parse (text : String) : Option Node := do
  let text := withoutMark text.toList
  let text ← if "<?xml ".toList.isPrefixOf text then skipDeclaration? (text.drop 5) else some text
  let r ← Reader.start.run text
  r.root?

end Atelier.Xml

/-
Hosts: by name or by address.
-/
import Atelier.Url.Domain
import Atelier.Decimal.Layout
import Atelier.Text.Quoted

namespace Atelier.Url

/-- A host. -/
inductive Host where
  /-- A host by its name; without a name there is no host. -/
  | name (text : String)
  /-- An address of 32 bits. -/
  | short (address : Nat)
  /-- An address of eight pieces of 16 bits. -/
  | long (pieces : List Nat)
deriving DecidableEq, Repr

/-! ## Addresses of 32 bits -/

/-- A number of an address: in base sixteen after `0x`, in base eight after `0`, else in base
ten. -/
def addressNumber? (text : List Char) : Option Nat :=
  match text with
  | [] => none
  | '0' :: 'x' :: digits | '0' :: 'X' :: digits => valueIn? 16 digits
  | '0' :: d :: digits => valueIn? 8 (d :: digits)
  | digits => valueIn? 10 digits

/-- The labels of a name without the empty one after a final point. -/
def addressParts (name : List Char) : List (List Char) :=
  let parts := pieces (· = '.') name
  if parts.length > 1 && parts.getLast? = some [] then parts.dropLast else parts

/-- Whether a name can only be an address: its last label is a number. -/
def endsInNumber (name : List Char) : Bool :=
  match (addressParts name).getLast? with
  | some last => (!last.isEmpty && last.all Char.isDigit) || (addressNumber? last).isSome
  | none => false

/-- The address with the given numbers: all but the last are bytes, and the last fills what is
left. -/
def shortAddress? (numbers : List Nat) : Option Nat :=
  match numbers.reverse with
  | [] => none
  | last :: before =>
    let high := before.reverse
    if high.length > 3 || high.any (255 < ·) || 1 <<< (8 * (4 - high.length)) ≤ last then none
    else some (high.zipIdx.foldl (fun sum (n, i) => sum + n <<< (8 * (3 - i))) last)

/-- A host of a web scheme that is not in brackets. -/
def Host.ofName? (text : List Char) : Option Host := do
  let name ← hostName? text
  if endsInNumber name then
    let numbers ← (addressParts name).mapM addressNumber?
    return .short (← shortAddress? numbers)
  else
    return .name (String.ofList name)

/-! ## Addresses of 128 bits -/

/-- A decimal number below 256 without a leading zero. -/
def byteNumber? (text : List Char) : Option Nat := do
  let n ← valueIn? 10 text
  if text.isEmpty || n > 255 || (text.length > 1 && text.head? = some '0') then none else some n

/-- The two pieces that a final address of 32 bits stands for. -/
def pieceOfBytes? (text : List Char) : Option (List Nat) :=
  match (pieces (· = '.') text).mapM byteNumber? with
  | some [a, b, c, d] => some [256 * a + b, 256 * c + d]
  | _ => none

/-- The pieces of a run without a gap; `final` says that an address of 32 bits may end it. -/
def addressPieces? (final : Bool) (text : List Char) : Option (List Nat) :=
  if text.isEmpty then some []
  else
    let parts := pieces (· = ':') text
    let piece? (part : List Char) : Option Nat :=
      if part.isEmpty || part.length > 4 then none else valueIn? 16 part
    match parts.getLast? with
    | some last =>
      if final && last.contains '.' then do
        let before ← parts.dropLast.mapM piece?
        return before ++ (← pieceOfBytes? last)
      else parts.mapM piece?
    | none => none

/-- What stands before and after the first double colon. -/
def splitGap : List Char → Option (List Char × List Char)
  | [] => none
  | ':' :: ':' :: rest => some ([], rest)
  | c :: rest => (splitGap rest).map fun (before, after) => (c :: before, after)

/-- The pieces of an address; a double colon stands for as many zeros as are missing. -/
def longAddress? (text : List Char) : Option (List Nat) :=
  match splitGap text with
  | none => do
    let all ← addressPieces? true text
    if all.length = 8 then some all else none
  | some (before, after) => do
    let before ← addressPieces? false before
    let after ← addressPieces? true after
    let given := before.length + after.length
    if given ≤ 7 then some (before ++ List.replicate (8 - given) 0 ++ after) else none

/-- The host in brackets. -/
def Host.ofBrackets? (text : List Char) : Option Host :=
  if text.getLast? = some ']' then (longAddress? text.dropLast).map .long else none

/-! ## Reading and writing -/

/-- Characters that a host of a scheme without rules of its own may not hold. -/
def hostForbidden (c : Char) : Bool :=
  c = '\x00' || "\t\n\r #/:<>?@[\\]^|".toList.contains c

/-- The host in a text.  `web` says whether the scheme is one whose hosts are names. -/
def Host.parse? (web : Bool) (text : List Char) : Option Host :=
  match text with
  | '[' :: rest => ofBrackets? rest
  | text =>
    if web then ofName? text
    else if text.any hostForbidden then none
    else some (.name (String.ofList (percentEncode isControl text)))

/-- The length of the run of zeros that a list starts with. -/
def zerosAt (ps : List Nat) : Nat :=
  (ps.takeWhile (· = 0)).length

/-- Where the first of the longest runs of zeros starts, and its length. -/
def longestZeros (ps : List Nat) : Nat × Nat :=
  (List.range ps.length).foldl (fun best i =>
    if best.2 < zerosAt (ps.drop i) then (i, zerosAt (ps.drop i)) else best) (0, 0)

/-- Pieces in base sixteen with colons between them. -/
def pieceText (ps : List Nat) : List Char :=
  [':'].intercalate (ps.map hexText)

/-- The text of a host. -/
def Host.text : Host → List Char
  | name text => text.toList
  | short n =>
    ['.'].intercalate ([3, 2, 1, 0].map fun i => naturalText (n >>> (8 * i) % 256))
  | long ps =>
    let (start, length) := longestZeros ps
    let inner :=
      if length < 2 then pieceText ps
      else pieceText (ps.take start) ++ "::".toList ++ pieceText (ps.drop (start + length))
    '[' :: (inner ++ [']'])

end Atelier.Url

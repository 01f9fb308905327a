/-
The labels of a host name: which texts are labels.
-/
import Atelier.Text.Composed
import Atelier.Text.Direction
import Atelier.Text.Joining
import Atelier.Text.Mark
import Atelier.Url.LabelCode
import Atelier.Url.NameTable

namespace Atelier.Url

/-! ## Joiners -/

/-- Whether the first character that does not let its neighbors join is one that joins as
wanted. -/
def reachesJoining (wanted : List Joining) (text : List Char) : Bool :=
  ((text.map joiningOf).find? (· ≠ .through)).any wanted.contains

/-- Whether the two invisible characters that make or break a connection stand where they have an
effect: behind a mark that takes a vowel away or, for the one that breaks, between letters that
would join.  `before` is what stands before the text, the last character first. -/
def joinersFit (before : List Char) : List Char → Bool
  | [] => true
  | c :: rest =>
    let connects := before.head?.any isVowelKiller
    let separates := reachesJoining [.after, .both] before && reachesJoining [.before, .both] rest
    let fits :=
      if c = '\u200C' then connects || separates
      else if c = '\u200D' then connects
      else true
    fits && joinersFit (c :: before) rest

/-! ## Directions -/

/-- Whether a name with this character is one with text from right to left. -/
def isRightward (c : Char) : Bool :=
  directionOf c = .right || directionOf c = .arabicDigit

/-- Whether a label keeps its order when it stands among labels of either direction: it starts
with a letter, holds no letters of the other direction, and ends in a letter or a digit. -/
def directionsFit (label : List Char) : Bool :=
  match label.map directionOf with
  | [] => true
  | first :: rest =>
    let rest := (rest.reverse.dropWhile (· = .mark)).reverse
    let holdsOnly (inside ending : List Direction) : Bool :=
      rest.all inside.contains && rest.getLast?.all ending.contains
    match first with
    | .left => holdsOnly [.left, .digit, .neutral, .mark] [.left, .digit]
    | .right =>
      holdsOnly [.right, .arabicDigit, .digit, .neutral, .mark] [.right, .arabicDigit, .digit]
        && !(rest.contains .digit && rest.contains .arabicDigit)
    | _ => false

/-! ## Labels -/

/-- Whether a character is in ASCII. -/
def isAscii (c : Char) : Bool :=
  c.toNat < 0x80

/-- How many characters the code of a label may have. -/
def maxCodeLength : Nat := 2000

/-- How many characters a label may have that is not in ASCII. -/
def maxLabelLength : Nat := 1000

/-- The label that is meant by a label, which may be given by its code behind `xn--`. -/
def shownLabel? (label : List Char) : Option (List Char) :=
  if "xn--".toList.isPrefixOf label then do
    let code := label.drop 4
    if code.all isAscii && code.length ≤ maxCodeLength && code.getLast?.any (· ≠ '-') then
      let shown ← LabelCode.decode? code
      if shown.all nameCharacters.has && composed shown = shown then some shown else none
    else none
  else some label

/-- Whether a text may be a label. -/
def isLabel (label : List Char) : Bool :=
  !label.head?.any isMark && joinersFit [] label
    && (label.all isAscii || label.length ≤ maxLabelLength)

/-- A label in ASCII. -/
def asciiLabel (label : List Char) : List Char :=
  if label.all isAscii then label else "xn--".toList ++ LabelCode.encode label

end Atelier.Url

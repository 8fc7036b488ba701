/-
# Domain names

A domain name is labels with points between them. It is looked up in characters
of ASCII, and a label with others is written in Punycode behind `xn--`. Before
that, letters become small, characters that look alike give way to one of them,
and signs that only change the looks are dropped; what is left is composed.

A label must not begin with a mark, its joiners must mean something, and the
labels of a name must have one direction each. A label that comes in Punycode has
to be the one that its characters would get.

Key definitions: `Domain.mapped?`, `Domain.Label`, `Domain.label?`,
`Domain.ascii?`.
-/
import FlashStation.Place.Domain.Table
import FlashStation.Text.Bidi
import FlashStation.Text.Category
import FlashStation.Text.Joining
import FlashStation.Text.Pieces
import FlashStation.Text.Punycode

namespace FlashStation.Domain

/-- What becomes of a character. -/
def mappedChar (c : Char) : List Char :=
  if dropped.has c then []
  else ((replaced.replacement? c.toNat).map (·.map Char.ofNat)).getD [c]

/-- A name as it is looked up, but for Punycode, if all its characters can be had. -/
def mapped? (s : List Char) : Option (List Char) :=
  if s.any barred.has then none else some (Text.composed (s.flatMap mappedChar))

/-- Whether all characters are of ASCII. -/
def isAscii (s : List Char) : Bool :=
  s.all fun c => c.toNat < 0x80

/-- Whether characters make a label: no mark begins it, and its joiners mean something. -/
def isLabel (s : List Char) : Bool :=
  !(s.head?.map Text.isMark).getD false && Text.Joining.fits [] s

/-- A label: its characters, and what is written for them in ASCII. -/
structure Label where
  /-- The characters. -/
  plain : List Char
  /-- What is written. -/
  written : List Char
  deriving DecidableEq, Repr, Inhabited

/-- The longest label that is read from Punycode, without what stands before it. -/
def longestCode : Nat := 2000

/-- The longest label that is written in Punycode. -/
def longestPlain : Nat := 1000

/-- The characters of a label in Punycode, if it is the one that they would get. -/
def decoded? (code : List Char) : Option (List Char) :=
  if isAscii code && code.length ≤ longestCode && !code.isEmpty && code.getLast? != some '-' then
    (Text.Punycode.decode? code).filter fun plain =>
      !isAscii plain && mapped? plain == some plain && isLabel plain
  else none

/-- The label that mapped characters make. -/
def label? (s : List Char) : Option Label :=
  match s with
  | 'x' :: 'n' :: '-' :: '-' :: code => (decoded? code).map (⟨·, s⟩)
  | _ =>
    if isAscii s then some ⟨s, s⟩
    else if isLabel s && s.length ≤ longestPlain then
      some ⟨s, 'x' :: 'n' :: '-' :: '-' :: Text.Punycode.encode s⟩
    else none

/-- A name in ASCII, if it is one. -/
def ascii? (s : List Char) : Option (List Char) := do
  let labels ← (Text.pieces '.' (← mapped? s)).mapM label?
  if Text.Bidi.arePlain (labels.map (·.plain)) then
    some ((labels.map (·.written)).intersperse ['.']).flatten
  else none

end FlashStation.Domain

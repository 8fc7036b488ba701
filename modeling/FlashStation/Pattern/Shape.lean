/-
# Texts that fit a pattern

A shape says which texts fit a pattern: a character of a set, a place with something
beside it, two shapes one behind the other, one of two shapes, or a shape many times
over.

Whether a part of a text fits is found with marks. There is a mark for each place of
the text, the ends included; from the places where a shape may begin, the places
follow where it may end. A shape that is repeated moves the marks again and again.
Since a mark never moves back, the marks stay the same from some step on, and there
are at most as many steps before that as places.

Key definitions: `Pattern.Spot`, `Pattern.Shape`, `Pattern.Shape.move`,
`Pattern.Shape.occursIn`, `Pattern.Shape.size`.
-/
import FlashStation.Pattern.NamedClass
import FlashStation.Pattern.Tree

namespace FlashStation.Pattern

/-- What is asked of the characters beside a place. -/
inductive Spot where
  /-- There is nothing in front. -/
  | textStart
  /-- There is nothing behind. -/
  | textEnd
  /-- A line starts. -/
  | lineStart
  /-- A line ends. -/
  | lineEnd
  /-- A line starts, where a carriage return is part of a line end. -/
  | carriageStart
  /-- A line ends, where a carriage return is part of a line end. -/
  | carriageEnd
  /-- A border of words; `isAscii` says whether words have characters of ASCII only. -/
  | word (b : WordBorder) (isAscii : Bool)
  deriving DecidableEq, Repr, Inhabited

/-- Which texts fit a pattern. -/
inductive Shape where
  /-- The empty text. -/
  | nothing
  /-- A character of a set. -/
  | one (set : CharSet)
  /-- The empty text in some places. -/
  | spot (s : Spot)
  /-- Two shapes, one behind the other. -/
  | both (first second : Shape)
  /-- One of two shapes. -/
  | either (first second : Shape)
  /-- A shape many times over. -/
  | times (least : Nat) (most : Option Nat) (inner : Shape)
  /-- A shape whose place in the text is of interest. -/
  | numbered (inner : Shape)
  deriving DecidableEq, Repr, Inhabited

/-! ### Places -/

/-- Whether a character belongs to words. -/
def isWordChar (c : Char) : Bool := NamedClass.word.set.has c

/-- Whether a place is a border of words, by whether the characters in front of it and
behind it belong to words. -/
def WordBorder.holds (before behind : Bool) : WordBorder → Bool
  | .edge => before != behind
  | .noEdge => before == behind
  | .start => !before && behind
  | .stop => before && !behind
  | .freeBefore => !before
  | .freeBehind => !behind

/-- Whether a place has something beside it. The characters in front of it and behind it
are none at the ends of the text. -/
def Spot.holds (before behind : Option Char) : Spot → Bool
  | .textStart => before.isNone
  | .textEnd => behind.isNone
  | .lineStart => before.isNone || before == some '\n'
  | .lineEnd => behind.isNone || behind == some '\n'
  | .carriageStart =>
    before.isNone || before == some '\n' || (before == some '\r' && behind != some '\n')
  | .carriageEnd =>
    behind.isNone || behind == some '\r' || (behind == some '\n' && before != some '\r')
  | .word b _ => b.holds (before.any isWordChar) (behind.any isWordChar)

/-- For each place of a text whether something is beside it. -/
def Spot.places (s : Spot) (before : Option Char) : List Char → List Bool
  | [] => [s.holds before none]
  | c :: rest => s.holds before (some c) :: s.places (some c) rest

namespace Shape

/-! ### Marks -/

/-- Moves marks so many times, or until they stay the same. -/
def repeatStep (step : List Bool → List Bool) : Nat → List Bool → List Bool
  | 0, marks => marks
  | n + 1, marks =>
    let next := step marks
    if next = marks then marks else repeatStep step n next

/-- Moves marks so many times, or until they stay the same, and keeps all marks on the
way. -/
def gather (step : List Bool → List Bool) : Nat → List Bool → List Bool
  | 0, marks => marks
  | n + 1, marks =>
    let next := step marks
    if next = marks then marks else marks.zipWith (· || ·) (gather step n next)

/-- Moves marks over a shape: from the places where it may begin to the places where it
may end. -/
def move (text : List Char) : Shape → List Bool → List Bool
  | .nothing, marks => marks
  | .one set, marks => false :: marks.zipWith (fun m c => m && set.has c) text
  | .spot s, marks => marks.zipWith (· && ·) (s.places none text)
  | .both first second, marks => second.move text (first.move text marks)
  | .either first second, marks =>
    (first.move text marks).zipWith (· || ·) (second.move text marks)
  | .times least most inner, marks =>
    let bound := text.length + 1
    let begun := repeatStep (inner.move text) (min least bound) marks
    gather (inner.move text) (min ((most.map (· - least)).getD bound) bound) begun
  | .numbered inner, marks => inner.move text marks

/-- Whether a part of a text fits a shape. -/
def occursIn (s : Shape) (text : String) : Bool :=
  (s.move text.toList (List.replicate (text.length + 1) true)).any id

/-! ### Size -/

/-- Whether only the empty text can fit. -/
def isFlat : Shape → Bool
  | .nothing | .spot _ => true
  | .one _ => false
  | .both first second => first.isFlat && second.isFlat
  | .either first second => first.isFlat && second.isFlat
  | .times _ _ inner | .numbered inner => inner.isFlat

/-- Whether words are asked for that have other characters than those of ASCII. -/
def hasWideWords : Shape → Bool
  | .nothing | .one _ => false
  | .spot (.word _ isAscii) => !isAscii
  | .spot _ => false
  | .both first second => first.hasWideWords || second.hasWideWords
  | .either first second => first.hasWideWords || second.hasWideWords
  | .times _ _ inner | .numbered inner => inner.hasWideWords

/-- A shape many times over. What fits only the empty text need not be repeated. -/
def repeated (least : Nat) (most : Option Nat) (inner : Shape) : Shape :=
  let least := if inner.isFlat then min least 1 else least
  let most := if inner.isFlat then some (min (most.getD 1) 1) else most
  if most = some 0 then .nothing
  else if least = 1 ∧ most = some 1 then inner
  else .times least most inner

/-- The size of a state of a machine that reads texts, in bytes. -/
def stateSize : Nat := 32

/-- The size of a way from a state to another one. -/
def waySize : Nat := 8

/-- About the size of the states for a character of a set. A single character has a state
for each byte of it. -/
def setSize (set : CharSet) : Nat :=
  match set.ranges with
  | [(low, high)] =>
    if low = high then stateSize * (Char.ofNat low).utf8Size
    else if high < 0x80 then 2 * stateSize + waySize
    else 12 * stateSize + 4 * waySize
  | ranges =>
    if set.isAscii then 2 * stateSize + ranges.length * waySize
    else 12 * stateSize + 2 * ranges.length * waySize

/-- About the size of a machine that reads texts that fit. -/
def size : Shape → Nat
  | .nothing | .spot _ => stateSize
  | .one set => setSize set
  | .both first second => first.size + second.size
  | .either first second => first.size + second.size + 2 * stateSize + waySize
  | .numbered inner => inner.size + 2 * stateSize
  | .times least none inner => max least 1 * inner.size + stateSize + waySize
  | .times least (some most) inner =>
    least * inner.size + (most - least) * (inner.size + stateSize + waySize) + stateSize

/-- The size that a machine may have. -/
def sizeLimit : Nat := 10 * 1024 * 1024

end Shape

end FlashStation.Pattern

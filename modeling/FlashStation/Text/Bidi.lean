/-
# Directions

Some scripts are written from right to left. So that the labels of a name stay
apart when they are shown, a name with such characters has labels of one
direction each: the first character gives the direction, only characters that go
with it follow, and the end is a letter or a number. A label from right to left
has numbers of one kind.

Key definitions: `Text.Direction`, `Text.direction`, `Text.Bidi.isPlain`,
`Text.Bidi.arePlain`.
-/
import FlashStation.Text.Bidi.Table

namespace FlashStation.Text

/-- The direction of a character. -/
inductive Direction where
  /-- From left to right. -/
  | toRight
  /-- From right to left. -/
  | toLeft
  /-- From right to left, a letter of Arabic. -/
  | arabicLetter
  /-- A number of Arabic. -/
  | arabicNumber
  /-- A number of Europe. -/
  | number
  /-- A sign in front of a number or between numbers, or one without direction. -/
  | neutral
  /-- A mark on the character before it. -/
  | mark
  deriving DecidableEq, Repr, Inhabited

/-- The direction that a class means. -/
def Direction.ofClass (name : String) : Direction :=
  match name with
  | "R" => .toLeft
  | "AL" => .arabicLetter
  | "AN" => .arabicNumber
  | "EN" => .number
  | "NSM" => .mark
  | _ => .neutral

/-- The direction of a character. -/
def direction (c : Char) : Direction :=
  ((Bidi.classes.value? c).map Direction.ofClass).getD .toRight

namespace Bidi

/-- Whether a character makes a name one with two directions. -/
def turns (c : Char) : Bool :=
  match direction c with
  | .toLeft | .arabicLetter | .arabicNumber => true
  | _ => false

/-- The directions of a label without the marks at its end. -/
def trunk (label : List Char) : List Direction :=
  ((label.map direction).reverse.dropWhile (· == .mark)).reverse

/-- Whether the directions behind the first one, from left to right, go with it. -/
def goesRight (ds : List Direction) : Bool :=
  ds.all (fun d => d == .toRight || d == .number || d == .neutral || d == .mark) &&
    match ds.getLast? with
    | some .toRight | some .number => true
    | _ => false

/-- Whether the directions behind the first one, from right to left, go with it. -/
def goesLeft (ds : List Direction) : Bool :=
  ds.all (· != .toRight) && !(ds.contains .number && ds.contains .arabicNumber) &&
    match ds.getLast? with
    | some .toLeft | some .arabicLetter | some .arabicNumber | some .number => true
    | _ => false

/-- Whether a label has one direction. -/
def isPlain (label : List Char) : Bool :=
  match (label.map direction).head? with
  | none => true
  | some .toRight => goesRight (trunk label)
  | some .toLeft | some .arabicLetter => goesLeft (trunk label)
  | some _ => false

/-- Whether the labels of a name have one direction each, if they have to. -/
def arePlain (labels : List (List Char)) : Bool :=
  !labels.any (·.any turns) || labels.all isPlain

end Bidi

end FlashStation.Text

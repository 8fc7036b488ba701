/-
# Patterns as they are written

The parts of a pattern as it is written, each with the extent that it takes up.
Flags change how the parts behind them are meant, up to the end of the group.

Key definitions: `Pattern.Tree`, `Pattern.SetTree`, `Pattern.Property`,
`Pattern.FlagItem`, `Pattern.Border`, `Pattern.WordBorder`.
-/
import FlashStation.Pattern.Fault
import FlashStation.Pattern.NamedClass

namespace FlashStation.Pattern

/-- What a flag changes. -/
inductive Flag where
  /-- Whether capital and small letters are the same. -/
  | anyCase
  /-- Whether lines have borders of their own. -/
  | byLine
  /-- Whether a point stands for line ends, too. -/
  | anyChar
  /-- Whether repetitions prefer to be short. -/
  | short
  /-- Whether characters are meant and not bytes. -/
  | characters
  /-- Whether a carriage return is part of a line end. -/
  | carriage
  /-- Whether blanks mean nothing. -/
  | spaced
  deriving DecidableEq, Repr, Inhabited

/-- A flag that is turned on or off. -/
structure FlagItem where
  /-- The flag. -/
  flag : Flag
  /-- Whether it is turned on. -/
  isOn : Bool
  deriving DecidableEq, Repr, Inhabited

/-- What is asked of the characters beside a place, as far as words are concerned. -/
inductive WordBorder where
  /-- A word starts or ends. -/
  | edge
  /-- No word starts or ends. -/
  | noEdge
  /-- A word starts. -/
  | start
  /-- A word ends. -/
  | stop
  /-- Nothing in front belongs to a word. -/
  | freeBefore
  /-- Nothing behind belongs to a word. -/
  | freeBehind
  deriving DecidableEq, Repr, Inhabited

/-- A border between characters. -/
inductive Border where
  /-- The start of a line, or of the text. -/
  | lineStart
  /-- The end of a line, or of the text. -/
  | lineEnd
  /-- The start of the text. -/
  | textStart
  /-- The end of the text. -/
  | textEnd
  /-- A border that has to do with words. -/
  | word (b : WordBorder)
  deriving DecidableEq, Repr, Inhabited

/-- A property of characters. -/
structure Property where
  /-- The name. -/
  name : String
  /-- Whether a value of it is given, too. -/
  hasValue : Bool
  deriving DecidableEq, Repr, Inhabited

/-- A written character. -/
structure Written where
  /-- Where it stands. -/
  extent : Extent
  /-- The character. -/
  char : Char
  /-- Whether it is written as a number of two digits, which may mean a byte. -/
  isByte : Bool
  deriving DecidableEq, Repr, Inhabited

/-- How two sets are put together. -/
inductive SetOp where
  /-- What is in both. -/
  | inter
  /-- What is in the first one only. -/
  | diff
  /-- What is in exactly one. -/
  | symmDiff
  deriving DecidableEq, Repr, Inhabited

/-- A set of characters as it is written. -/
inductive SetTree where
  /-- Nothing. -/
  | nothing (extent : Extent)
  /-- A character. -/
  | char (c : Written)
  /-- A range of characters. -/
  | range (extent : Extent) (first last : Written)
  /-- A class of ASCII by its name. -/
  | named (extent : Extent) (kind : NamedClass) (isNegated : Bool)
  /-- A class with a letter of its own. -/
  | short (extent : Extent) (kind : NamedClass) (isNegated : Bool)
  /-- A property. -/
  | property (extent : Extent) (p : Property)
  /-- A set in brackets. -/
  | bracket (extent : Extent) (isNegated : Bool) (inner : SetTree)
  /-- Several sets. -/
  | union (extent : Extent) (items : List SetTree)
  /-- Two sets. -/
  | both (extent : Extent) (op : SetOp) (left right : SetTree)
  deriving Repr, Inhabited

/-- Where a set stands. -/
def SetTree.extent : SetTree → Extent
  | .nothing e | .range e _ _ | .named e _ _ | .short e _ _ | .property e _ | .bracket e _ _
  | .union e _ | .both e _ _ _ => e
  | .char c => c.extent

/-- A pattern as it is written. -/
inductive Tree where
  /-- Nothing. -/
  | nothing (extent : Extent)
  /-- Flags for what follows. -/
  | flags (extent : Extent) (items : List FlagItem)
  /-- A character. -/
  | char (c : Written)
  /-- Any character. -/
  | point (extent : Extent)
  /-- A border. -/
  | border (extent : Extent) (b : Border)
  /-- A set of characters. -/
  | set (s : SetTree)
  /-- A part that is repeated. -/
  | repetition (extent : Extent) (least : Nat) (most : Option Nat) (inner : Tree)
  /-- A part in parentheses, which is numbered or has flags of its own. -/
  | group (extent : Extent) (isNumbered : Bool) (items : List FlagItem) (inner : Tree)
  /-- One of several parts. -/
  | either (extent : Extent) (branches : List Tree)
  /-- Several parts, one behind the other. -/
  | sequence (extent : Extent) (parts : List Tree)
  deriving Repr, Inhabited

/-- Where a part stands. -/
def Tree.extent : Tree → Extent
  | .nothing e | .flags e _ | .point e | .border e _ | .repetition e _ _ _ | .group e _ _ _
  | .either e _ | .sequence e _ => e
  | .char c => c.extent
  | .set s => s.extent

/-! ### Depth -/

mutual

/-- The first part of a set that is nested deeper than a limit allows. -/
def SetTree.beyond (room : Nat) : SetTree → Option Extent
  | .nothing _ | .char _ | .range _ _ _ | .named _ _ _ | .short _ _ _ | .property _ _ => none
  | .bracket e _ inner => if room = 0 then some e else inner.beyond (room - 1)
  | .union e items => if room = 0 then some e else SetTree.anyBeyond (room - 1) items
  | .both e _ left right =>
    if room = 0 then some e else (left.beyond (room - 1)).or (right.beyond (room - 1))

/-- The first part of some sets that is nested deeper than a limit allows. -/
def SetTree.anyBeyond (room : Nat) : List SetTree → Option Extent
  | [] => none
  | s :: rest => (s.beyond room).or (SetTree.anyBeyond room rest)

end

mutual

/-- The first part of a pattern that is nested deeper than a limit allows. -/
def Tree.beyond (room : Nat) : Tree → Option Extent
  | .nothing _ | .flags _ _ | .char _ | .point _ | .border _ _ => none
  | .set s => s.beyond room
  | .repetition e _ _ inner => if room = 0 then some e else inner.beyond (room - 1)
  | .group e _ _ inner => if room = 0 then some e else inner.beyond (room - 1)
  | .either e branches => if room = 0 then some e else Tree.anyBeyond (room - 1) branches
  | .sequence e parts => if room = 0 then some e else Tree.anyBeyond (room - 1) parts

/-- The first part of some patterns that is nested deeper than a limit allows. -/
def Tree.anyBeyond (room : Nat) : List Tree → Option Extent
  | [] => none
  | t :: rest => (t.beyond room).or (Tree.anyBeyond room rest)

end

end FlashStation.Pattern

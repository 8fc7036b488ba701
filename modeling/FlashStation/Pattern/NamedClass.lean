/-
# Classes of ASCII

Classes of characters of ASCII that have a name.

Key definitions: `Pattern.NamedClass`, `Pattern.NamedClass.ofName?`,
`Pattern.NamedClass.set`.
-/
import FlashStation.Pattern.CharSet

namespace FlashStation.Pattern

/-- A class of ASCII. -/
inductive NamedClass where
  /-- Letters and digits. -/
  | alnum
  /-- Letters. -/
  | alpha
  /-- All characters. -/
  | ascii
  /-- The space and the tabulator. -/
  | blank
  /-- Control characters. -/
  | cntrl
  /-- Decimal digits. -/
  | digit
  /-- What leaves ink on paper. -/
  | graph
  /-- Small letters. -/
  | lower
  /-- What leaves ink on paper, and the space. -/
  | print
  /-- Marks and signs. -/
  | punct
  /-- Blanks. -/
  | space
  /-- Capital letters. -/
  | upper
  /-- Characters of words. -/
  | word
  /-- Hexadecimal digits. -/
  | xdigit
  deriving DecidableEq, Repr, Inhabited

namespace NamedClass

/-- All classes. -/
def all : List NamedClass :=
  [.alnum, .alpha, .ascii, .blank, .cntrl, .digit, .graph, .lower, .print, .punct, .space, .upper,
    .word, .xdigit]

/-- The name of a class. -/
def name : NamedClass → String
  | .alnum => "alnum"
  | .alpha => "alpha"
  | .ascii => "ascii"
  | .blank => "blank"
  | .cntrl => "cntrl"
  | .digit => "digit"
  | .graph => "graph"
  | .lower => "lower"
  | .print => "print"
  | .punct => "punct"
  | .space => "space"
  | .upper => "upper"
  | .word => "word"
  | .xdigit => "xdigit"

/-- The class of a name. -/
def ofName? (s : String) : Option NamedClass :=
  all.find? (·.name == s)

/-- The digits. -/
def digits : Nat × Nat := (0x30, 0x39)

/-- The characters of a class. -/
def set : NamedClass → CharSet
  | .alnum => .ofRanges [digits, CharSet.capitals, CharSet.smalls]
  | .alpha => .ofRanges [CharSet.capitals, CharSet.smalls]
  | .ascii => .ofRanges [(0, 0x7F)]
  | .blank => .ofRanges [(0x09, 0x09), (0x20, 0x20)]
  | .cntrl => .ofRanges [(0, 0x1F), (0x7F, 0x7F)]
  | .digit => .ofRanges [digits]
  | .graph => .ofRanges [(0x21, 0x7E)]
  | .lower => .ofRanges [CharSet.smalls]
  | .print => .ofRanges [(0x20, 0x7E)]
  | .punct => .ofRanges [(0x21, 0x2F), (0x3A, 0x40), (0x5B, 0x60), (0x7B, 0x7E)]
  | .space => .ofRanges [(0x09, 0x0D), (0x20, 0x20)]
  | .upper => .ofRanges [CharSet.capitals]
  | .word => .ofRanges [digits, CharSet.capitals, (0x5F, 0x5F), CharSet.smalls]
  | .xdigit => .ofRanges [digits, (0x41, 0x46), (0x61, 0x66)]

end NamedClass

end FlashStation.Pattern

/-
# Blank characters and trimming

A character is blank when it has the Unicode property `White_Space`; the
property has ten ranges and no character outside the Basic Multilingual Plane.
Trimming drops blanks at the ends of a text and keeps those inside it.

Key definitions: `Text.isBlank`, `Text.trimEnd`, `Text.trim`.
-/
namespace FlashStation.Text

/-- The ranges of `White_Space`, both ends included, in ascending order. -/
def blankRanges : List (Nat × Nat) :=
  [(0x0009, 0x000D), (0x0020, 0x0020), (0x0085, 0x0085), (0x00A0, 0x00A0), (0x1680, 0x1680),
   (0x2000, 0x200A), (0x2028, 0x2029), (0x202F, 0x202F), (0x205F, 0x205F), (0x3000, 0x3000)]

/-- Whether a character has the property `White_Space`. -/
def isBlank (c : Char) : Bool :=
  blankRanges.any fun r => r.1 ≤ c.toNat && c.toNat ≤ r.2

/-- Drops the blanks in front. -/
def trimStartChars (s : List Char) : List Char :=
  s.dropWhile isBlank

/-- Drops the blanks at the end. -/
def trimEndChars (s : List Char) : List Char :=
  (s.reverse.dropWhile isBlank).reverse

/-- Drops the blanks at both ends. -/
def trimChars (s : List Char) : List Char :=
  trimEndChars (trimStartChars s)

/-- A text without the blanks at its end. -/
def trimEnd (s : String) : String :=
  String.ofList (trimEndChars s.toList)

/-- A text without the blanks at its ends. -/
def trim (s : String) : String :=
  String.ofList (trimChars s.toList)

/-- Whether `p` starts the text. -/
def startsWith (s p : String) : Bool :=
  p.toList.isPrefixOf s.toList

/-- What follows `p`, if the text starts with it. -/
def stripStart? (s p : String) : Option String :=
  if startsWith s p then some (String.ofList (s.toList.drop p.length)) else none

/-- One letter, with the capitals `A` to `Z` made small and all else kept. -/
def foldCase (c : Char) : Char :=
  if 'A' ≤ c ∧ c ≤ 'Z' then Char.ofNat (c.toNat + 32) else c

/-- Whether two texts are equal when the case of the letters `A` to `Z` is ignored. -/
def equalFold (a b : String) : Bool :=
  a.toList.map foldCase == b.toList.map foldCase

end FlashStation.Text

/-
# Faults of patterns

A fault of a pattern shows the pattern with marks under the place that makes no
sense. If the pattern has several lines, they are numbered and stand between two
rules.

Key definitions: `Pattern.Place`, `Pattern.Extent`, `Pattern.Cause`,
`Pattern.Fault`, `Pattern.Fault.text`.
-/
import FlashStation.Text.Numeral
import FlashStation.Text.Pieces

namespace FlashStation.Pattern

/-- A place in a pattern. -/
structure Place where
  /-- How many characters stand in front of it. -/
  index : Nat
  /-- The line, counted from one. -/
  line : Nat
  /-- The column, counted from one. -/
  column : Nat
  deriving DecidableEq, Repr, Inhabited

/-- The first place. -/
def Place.start : Place := ⟨0, 1, 1⟩

/-- The place behind a character. -/
def Place.after (p : Place) (c : Char) : Place :=
  if c = '\n' then ⟨p.index + 1, p.line + 1, 1⟩ else ⟨p.index + 1, p.line, p.column + 1⟩

/-- A part of a pattern. -/
structure Extent where
  /-- Where it begins. -/
  first : Place
  /-- Where it ends; this place is not part of it. -/
  stop : Place
  deriving DecidableEq, Repr, Inhabited

/-- The empty part at a place. -/
def Extent.at (p : Place) : Extent := ⟨p, p⟩

/-- Why a pattern makes no sense. -/
inductive Cause where
  /-- An escape that is no character and no class, inside brackets. -/
  | escapeInSet
  /-- The first character of a range comes behind the last one. -/
  | rangeOrder
  /-- An end of a range is no character. -/
  | rangeEnd
  /-- A bracket is not closed. -/
  | setUnclosed
  /-- A number is too large. -/
  | badNumber
  /-- A character's number has no digits. -/
  | noHexDigits
  /-- A number that is not of a character. -/
  | badHexNumber
  /-- A character that is no digit. -/
  | badHexDigit
  /-- An escape breaks off. -/
  | escapeBrokenOff
  /-- An unknown escape. -/
  | unknownEscape
  /-- A minus without a flag behind it. -/
  | danglingMinus
  /-- A flag occurs twice. -/
  | flagTwice
  /-- A minus occurs twice. -/
  | minusTwice
  /-- Flags break off. -/
  | flagsBrokenOff
  /-- An unknown flag. -/
  | unknownFlag
  /-- A group has the name of another one. -/
  | nameTwice
  /-- A group's name is empty. -/
  | emptyName
  /-- A character that no name has. -/
  | badName
  /-- A name breaks off. -/
  | nameBrokenOff
  /-- A group is not closed. -/
  | groupUnclosed
  /-- A group is closed that was not opened. -/
  | groupUnopened
  /-- Groups and sets are nested too deeply. -/
  | tooDeep (limit : Nat)
  /-- The least number of repetitions is above the greatest one. -/
  | countOrder
  /-- A number of repetitions has no digits. -/
  | noCount
  /-- A number of repetitions is not closed. -/
  | countUnclosed
  /-- There is nothing to repeat. -/
  | nothingToRepeat
  /-- A kind of end of words is not closed. -/
  | wordEndUnclosed
  /-- An unknown kind of end of words. -/
  | unknownWordEnd
  /-- A brace behind an end of words is not closed. -/
  | wordEndBrokenOff
  /-- A property without a name. -/
  | badProperty
  /-- What a group has matched cannot be asked for. -/
  | backreference
  /-- What stands beside a match cannot be asked for. -/
  | lookAround
  /-- A property of characters where there are only bytes. -/
  | notForBytes
  /-- The pattern fits bytes that are no text. -/
  | noText
  /-- An unknown property. -/
  | unknownProperty
  /-- An unknown value of a property. -/
  | unknownValue
  /-- A class that is known for ASCII only. -/
  | asciiClassOnly
  /-- Capital and small letters, which are known for ASCII only. -/
  | asciiCaseOnly
  deriving DecidableEq, Repr, Inhabited

/-- What is said of a cause. -/
def Cause.message : Cause → String
  | .escapeInSet => "invalid escape sequence found in character class"
  | .rangeOrder => "invalid character class range, the start must be <= the end"
  | .rangeEnd => "invalid range boundary, must be a literal"
  | .setUnclosed => "unclosed character class"
  | .badNumber => "decimal literal invalid"
  | .noHexDigits => "hexadecimal literal empty"
  | .badHexNumber => "hexadecimal literal is not a Unicode scalar value"
  | .badHexDigit => "invalid hexadecimal digit"
  | .escapeBrokenOff => "incomplete escape sequence, reached end of pattern prematurely"
  | .unknownEscape => "unrecognized escape sequence"
  | .danglingMinus => "dangling flag negation operator"
  | .flagTwice => "duplicate flag"
  | .minusTwice => "flag negation operator repeated"
  | .flagsBrokenOff => "expected flag but got end of regex"
  | .unknownFlag => "unrecognized flag"
  | .nameTwice => "duplicate capture group name"
  | .emptyName => "empty capture group name"
  | .badName => "invalid capture group character"
  | .nameBrokenOff => "unclosed capture group name"
  | .groupUnclosed => "unclosed group"
  | .groupUnopened => "unopened group"
  | .tooDeep limit =>
    s!"exceed the maximum number of nested parentheses/brackets ({Text.decimal limit})"
  | .countOrder => "invalid repetition count range, the start must be <= the end"
  | .noCount => "repetition quantifier expects a valid decimal"
  | .countUnclosed => "unclosed counted repetition"
  | .nothingToRepeat => "repetition operator missing expression"
  | .wordEndUnclosed =>
    "special word boundary assertion is either unclosed or contains an invalid character"
  | .unknownWordEnd =>
    "unrecognized special word boundary assertion, valid choices are: start, end, start-half or end-half"
  | .wordEndBrokenOff =>
    "found either the beginning of a special word boundary or a bounded repetition on a \\b with an opening brace, but no closing brace"
  | .badProperty => "invalid Unicode character class"
  | .backreference => "backreferences are not supported"
  | .lookAround => "look-around, including look-ahead and look-behind, is not supported"
  | .notForBytes => "Unicode not allowed here"
  | .noText => "pattern can match invalid UTF-8"
  | .unknownProperty => "Unicode property not found"
  | .unknownValue => "Unicode property value not found"
  | .asciiClassOnly =>
    "Unicode-aware Perl class not found (make sure the unicode-perl feature is enabled)"
  | .asciiCaseOnly =>
    "Unicode-aware case insensitivity matching is not available (make sure the unicode-case feature is enabled)"

/-- A fault of a pattern: the cause, the part that makes no sense, and the part that it
is at odds with, if there is one. -/
structure Fault where
  /-- The cause. -/
  cause : Cause
  /-- The part that makes no sense. -/
  extent : Extent
  /-- The part that it is at odds with. -/
  other : Option Extent
  deriving DecidableEq, Repr, Inhabited

namespace Fault

/-- So many of a character. -/
def fill (c : Char) (n : Nat) : String :=
  String.ofList (List.replicate n c)

/-- The lines of a text. The empty one behind the last line end does not count, nor does
a carriage return in front of a line end. -/
def lines (pattern : String) : List String :=
  let ls := Text.pieces '\n' pattern.toList
  let ended := ls.dropLast.map fun l => if l.getLast? = some '\r' then l.dropLast else l
  (ended ++ (ls.getLast?.filter (!·.isEmpty)).toList).map fun l => String.ofList l

/-- The parts that a fault points to. -/
def extents (f : Fault) : List Extent :=
  (f.extent :: f.other.toList).mergeSort fun a b =>
    a.first.index < b.first.index || (a.first.index == b.first.index && a.stop.index ≤ b.stop.index)

/-- Marks under some parts of a line. -/
def marks : Nat → List Extent → String
  | _, [] => ""
  | done, e :: rest =>
    let space := e.first.column - 1 - done
    let width := max 1 (e.stop.column - e.first.column)
    fill ' ' space ++ fill '^' width ++ marks (done + space + width) rest

/-- A pattern with marks. -/
def notated (f : Fault) (pattern : String) : String :=
  let ls := lines pattern
  let count := ls.length + if pattern.toList.getLast? = some '\n' then 1 else 0
  let width := if count ≤ 1 then 0 else (Text.decimal count).length
  let shown := f.extents.filter fun e => e.first.line == e.stop.line
  String.join (ls.zipIdx.map fun (l, i) =>
    let number := Text.decimal (i + 1)
    let head :=
      if width = 0 then fill ' ' 4 else fill ' ' (width - number.length) ++ number ++ ": "
    let here := shown.filter (·.first.line == i + 1)
    head ++ l ++ "\n" ++
      if here.isEmpty then ""
      else fill ' ' (if width = 0 then 4 else width + 2) ++ marks 0 here ++ "\n")

/-- The width of the rules around a pattern of several lines. -/
def ruleWidth : Nat := 79

/-- What is said of a fault of a pattern. -/
def text (f : Fault) (pattern : String) : String :=
  let body := f.notated pattern
  let message := "error: " ++ f.cause.message
  if pattern.toList.contains '\n' then
    let rule := fill '~' ruleWidth ++ "\n"
    let long := f.extents.filter fun e => e.first.line != e.stop.line
    let notes := long.map fun e =>
      s!"on line {Text.decimal e.first.line} (column {Text.decimal e.first.column}) through line " ++
        s!"{Text.decimal e.stop.line} (column {Text.decimal (e.stop.column - 1)})"
    "regex parse error:\n" ++ rule ++ body ++ rule ++
      (if notes.isEmpty then "" else Text.join "\n" notes ++ "\n") ++ message
  else "regex parse error:\n" ++ body ++ message

end Fault

end FlashStation.Pattern

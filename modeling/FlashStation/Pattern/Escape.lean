/-
# Escapes

A backslash gives the character behind it another meaning: a sign of the language of
patterns stands for itself, a letter for a control character, a class, a border or a
character by its number.

Key definitions: `Pattern.Atom`, `Pattern.Reader.escape`.
-/
import FlashStation.Pattern.Cursor
import FlashStation.Pattern.Tree
import FlashStation.Text.Numeral

namespace FlashStation.Pattern

/-- A part of a pattern that is written with one character or one escape. -/
inductive Atom where
  /-- A character. -/
  | char (c : Written)
  /-- Any character. -/
  | point (extent : Extent)
  /-- A border. -/
  | border (extent : Extent) (b : Border)
  /-- A class with a letter of its own. -/
  | short (extent : Extent) (kind : NamedClass) (isNegated : Bool)
  /-- A property. -/
  | property (extent : Extent) (p : Property)
  deriving Repr, Inhabited

namespace Atom

/-- Where it stands. -/
def extent : Atom → Extent
  | .char c => c.extent
  | .point e | .border e _ | .short e _ _ | .property e _ => e

/-- As a part of a pattern. -/
def tree : Atom → Tree
  | .char c => .char c
  | .point e => .point e
  | .border e b => .border e b
  | .short e kind isNegated => .set (.short e kind isNegated)
  | .property e p => .set (.property e p)

end Atom

/-- A character that stands for itself behind a backslash, and has a meaning without one. -/
def isSign (c : Char) : Bool :=
  ['\\', '.', '+', '*', '?', '(', ')', '|', '[', ']', '\x7b', '\x7d', '^', '$', '#', '&', '-', '~'].contains c

/-- Whether a character stands for itself behind a backslash. -/
def standsForItself (c : Char) : Bool :=
  isSign c || (c.toNat < 0x80 && !c.isAlphanum && c != '<' && c != '>')

/-- The control character that a letter stands for. -/
def controlChar? : Char → Option Char
  | 'a' => some '\x07'
  | 'f' => some '\x0c'
  | 't' => some '\t'
  | 'n' => some '\n'
  | 'r' => some '\r'
  | 'v' => some '\x0b'
  | _ => none

/-- The border that a character stands for. -/
def borderOf? : Char → Option Border
  | 'A' => some .textStart
  | 'z' => some .textEnd
  | 'b' => some (.word .edge)
  | 'B' => some (.word .noEdge)
  | '<' => some (.word .start)
  | '>' => some (.word .stop)
  | _ => none

/-- The class that a letter stands for, and whether its opposite is meant. -/
def shortClass? : Char → Option (NamedClass × Bool)
  | 'd' => some (.digit, false)
  | 'D' => some (.digit, true)
  | 's' => some (.space, false)
  | 'S' => some (.space, true)
  | 'w' => some (.word, false)
  | 'W' => some (.word, true)
  | _ => none

/-- The digits of a character's number without braces. -/
def numberSize? : Char → Option Nat
  | 'x' => some 2
  | 'u' => some 4
  | 'U' => some 8
  | _ => none

/-- The borders of words that have a name. -/
def wordBorderOf? : String → Option WordBorder
  | "start" => some .start
  | "end" => some .stop
  | "start-half" => some .freeBefore
  | "end-half" => some .freeBehind
  | _ => none

/-- Whether names of borders have a character. -/
def isBorderLetter (c : Char) : Bool := c.isAlpha || c == '-'

/-- Whether a character is a hexadecimal digit. -/
def isHexDigit (c : Char) : Bool := (Text.digitValue? 16 c).isSome

/-- The character of a number in hexadecimal. -/
def charOfDigits? (digits : List Char) : Option Char :=
  let n := digits.foldl (fun n d => n * 16 + (Text.digitValue? 16 d).getD 0) 0
  if n.isValidChar then some (Char.ofNat n) else none

/-- The name of a property in braces: everything in front of a colon, an equal sign or
an unequal one. -/
def Property.ofText (s : List Char) : Property :=
  let isMark (c : Char) : Bool := c == ':' || c == '='
  if s.any isMark then ⟨String.ofList (s.takeWhile (!isMark ·)), true⟩
  else ⟨String.ofList s, false⟩

namespace Reader

/-- Reads so many hexadecimal digits. -/
def hexDigits : Nat → Reader (List Char)
  | 0 => return []
  | n + 1 => do
    match ← next? with
    | none => failHere .escapeBrokenOff
    | some x =>
      if isHexDigit x then
        stepOn
        return x :: (← hexDigits n)
      else failAtChar .badHexDigit

/-- Reads the number of a character behind its letter. `start` is the place of the
backslash. -/
def charNumber (start : Place) (size : Nat) : Reader Atom := do
  stepOn
  let first ← here
  if (← next?) = some '\x7b' then
    let inner := (← charExtent).stop
    stepOn
    let digits ← takeOn isHexDigit
    let stop ← here
    match ← next? with
    | none => failFrom .escapeBrokenOff first
    | some '\x7d' =>
      stepOn
      if digits.isEmpty then failFrom .noHexDigits first
      else
        match charOfDigits? digits with
        | none => fail .badHexNumber ⟨inner, stop⟩
        | some c => return .char ⟨⟨start, ← here⟩, c, false⟩
    | some _ => failAtChar .badHexDigit
  else
    let digits ← hexDigits size
    let stop ← here
    match charOfDigits? digits with
    | none => fail .badHexNumber ⟨first, stop⟩
    | some c => return .char ⟨⟨start, stop⟩, c, size = 2⟩

/-- Reads a property behind its letter. -/
def property (start : Place) : Reader Atom := do
  stepOn
  match ← next? with
  | none => failHere .escapeBrokenOff
  | some '\x7b' =>
    stepOn
    let name ← takeOn (· != '\x7d')
    if (← next?).isNone then failHere .escapeBrokenOff
    else
      step
      return .property ⟨start, ← here⟩ (.ofText name)
  | some '\\' => failAtChar .badProperty
  | some c =>
    stepOn
    return .property ⟨start, ← here⟩ ⟨String.singleton c, false⟩

/-- Reads the name of a border of words in braces. If a number of repetitions stands in
them, nothing is read. -/
def wordBorder? (start : Place) : Reader (Option WordBorder) := do
  let before ← get
  let brace ← here
  stepOn
  match ← next? with
  | none => failFrom .wordEndBrokenOff start
  | some x =>
    if isBorderLetter x then
      let contents ← here
      let name ← takeOn isBorderLetter
      let stop ← here
      if (← next?) = some '\x7d' then
        step
        match wordBorderOf? (String.ofList name) with
        | some b => return some b
        | none => fail .unknownWordEnd ⟨contents, stop⟩
      else fail .wordEndUnclosed ⟨brace, stop⟩
    else
      set before
      return none

/-- Reads a border behind its letter, which is already read. -/
def border (start : Place) (b : Border) : Reader Atom := do
  let stop ← here
  if b = .word .edge ∧ (← next?) = some '\x7b' then
    match ← wordBorder? start with
    | some w => return .border ⟨start, ← here⟩ (.word w)
    | none => return .border ⟨start, stop⟩ b
  else return .border ⟨start, stop⟩ b

/-- Reads an escape from the backslash on. -/
def escape : Reader Atom := do
  let start ← here
  step
  match ← next? with
  | none => failFrom .escapeBrokenOff start
  | some c =>
    if c.isDigit then fail .backreference ⟨start, (← charExtent).stop⟩
    else if c = 'p' ∨ c = 'P' then property start
    else
      match numberSize? c with
      | some size => charNumber start size
      | none =>
        step
        let extent : Extent := ⟨start, ← here⟩
        match shortClass? c, borderOf? c with
        | some (kind, isNegated), _ => return .short extent kind isNegated
        | none, some b => border start b
        | none, none =>
          if standsForItself c then return .char ⟨extent, c, false⟩
          else
            match controlChar? c with
            | some x => return .char ⟨extent, x, false⟩
            | none => fail .unknownEscape extent

end Reader

end FlashStation.Pattern

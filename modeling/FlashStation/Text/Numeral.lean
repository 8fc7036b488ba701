/-
# Written numbers

Reading a number takes an optional `+` and one or more digits of a base, and
accepts it when its value is below a bound. Of two faults the one met first,
from the left, is reported: a character that is no digit, or a digit that
carries the value to the bound.

Key definitions: `Text.readNumeral`, `Text.decimal`, `Text.hexLower`,
`Text.hexUpper`.
-/
namespace FlashStation.Text

/-- Why a text is not a number in range. -/
inductive NumeralFault where
  /-- Nothing to read. -/
  | empty
  /-- A character that is no digit of the base. -/
  | invalidDigit
  /-- The value reaches the bound. -/
  | tooLarge
  deriving DecidableEq, Repr, Inhabited

/-- The text of a fault. -/
def NumeralFault.message : NumeralFault → String
  | .empty => "cannot parse integer from empty string"
  | .invalidDigit => "invalid digit found in string"
  | .tooLarge => "number too large to fit in target type"

/-- The value of a digit of a base up to 36; letters stand for ten and up, in either case. -/
def digitValue? (base : Nat) (c : Char) : Option Nat :=
  let v : Option Nat :=
    if '0' ≤ c ∧ c ≤ '9' then some (c.toNat - '0'.toNat)
    else if 'a' ≤ c ∧ c ≤ 'z' then some (c.toNat - 'a'.toNat + 10)
    else if 'A' ≤ c ∧ c ≤ 'Z' then some (c.toNat - 'A'.toNat + 10)
    else none
  v.filter (· < base)

/-- Adds digits to a value that is already read, and stops at the first fault. -/
def readDigits (base bound : Nat) : Nat → List Char → Except NumeralFault Nat
  | acc, [] => .ok acc
  | acc, c :: rest =>
    match digitValue? base c with
    | none => .error .invalidDigit
    | some d =>
      if acc * base + d < bound then readDigits base bound (acc * base + d) rest
      else .error .tooLarge

/-- Reads a whole text as a number of the given base below `bound`. -/
def readNumeral (base bound : Nat) : List Char → Except NumeralFault Nat
  | [] => .error .empty
  | ['+'] => .error .invalidDigit
  | '+' :: digits => readDigits base bound 0 digits
  | digits => readDigits base bound 0 digits

/-- A number in decimal. -/
def decimal (n : Nat) : String :=
  String.ofList (Nat.toDigits 10 n)

/-- Puts zeros in front until the text has `width` characters. -/
def padZeros (width : Nat) (s : List Char) : List Char :=
  List.replicate (width - s.length) '0' ++ s

/-- A number in hexadecimal with small letters and at least `width` digits. -/
def hexLower (width n : Nat) : String :=
  String.ofList (padZeros width (Nat.toDigits 16 n))

/-- A number in hexadecimal with capital letters and at least `width` digits. -/
def hexUpper (width n : Nat) : String :=
  String.ofList (padZeros width ((Nat.toDigits 16 n).map Char.toUpper))

/-- Two hexadecimal digits of a byte, small letters. -/
def hexByte (b : UInt8) : List Char :=
  [Nat.digitChar (b.toNat / 16), Nat.digitChar (b.toNat % 16)]

end FlashStation.Text

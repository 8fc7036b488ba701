/-
# Flash addresses

An address is a number of 32 bits. It is read from hexadecimal digits behind
`0x` or `0X`, or else from decimal digits, with blanks around it ignored; it is
printed in hexadecimal with capital letters.

Key definitions: `parseAddress`, `addressText`, `addressColumn`.
-/
import FlashStation.Image.Fault
import FlashStation.Text.Blank

namespace FlashStation

/-- The number of addresses. -/
def addressBound : Nat := 0x100000000

/-- Reads an address without blanks around it. -/
def readAddress : List Char → Except Text.NumeralFault Nat
  | '0' :: 'x' :: digits => Text.readNumeral 16 addressBound digits
  | '0' :: 'X' :: digits => Text.readNumeral 16 addressBound digits
  | digits => Text.readNumeral 10 addressBound digits

/-- The address that a text writes. A fault carries the text as it was given. -/
def parseAddress (value : String) : Except ChoiceFault UInt32 :=
  match readAddress (Text.trimChars value.toList) with
  | .ok n => .ok (UInt32.ofNat n)
  | .error fault => .error (.badAddress value fault)

/-- An address as it stands in summaries. -/
def addressText (a : UInt32) : String :=
  "0x" ++ Text.hexUpper 1 a.toNat

/-- An address as it stands in a column, with all eight digits. -/
def addressColumn (a : UInt32) : String :=
  "0x" ++ Text.hexUpper 8 a.toNat

end FlashStation

/-
# Percent encoding

A byte that may not stand in a text is written as `%` and two hexadecimal
digits. Which characters may stand depends on the part of the text; control
characters and all characters beyond 126 never may.

Key definitions: `Text.percentEncode`, `Text.percentDecode`.
-/
import FlashStation.Text.Numeral
import FlashStation.Text.Utf8

namespace FlashStation.Text

/-- One byte as `%` and two hexadecimal digits with capital letters. -/
def percentByte (b : UInt8) : List Char :=
  '%' :: (hexByte b).map Char.toUpper

/-- Whether a character is a control character or beyond the printable ones of ASCII. -/
def isUnprintable (c : Char) : Bool :=
  c.toNat < 0x20 || 0x7E < c.toNat

/-- One character, encoded if it is unprintable or among the reserved ones. -/
def percentChar (reserved : List Char) (c : Char) : List Char :=
  if isUnprintable c || reserved.contains c then (Utf8.encodeChar c).flatMap percentByte else [c]

/-- A text with its unprintable and reserved characters encoded. -/
def percentEncode (reserved : List Char) (s : List Char) : List Char :=
  s.flatMap (percentChar reserved)

/-- The bytes of a text in which `%` with two hexadecimal digits stands for a
byte; a `%` without two digits stands for itself. -/
def percentDecode : List UInt8 → List UInt8
  | b :: x :: y :: rest =>
    match digitValue? 16 (Char.ofNat x.toNat), digitValue? 16 (Char.ofNat y.toNat) with
    | some h, some l =>
      if b = 0x25 then UInt8.ofNat (h * 16 + l) :: percentDecode rest
      else b :: percentDecode (x :: y :: rest)
    | _, _ => b :: percentDecode (x :: y :: rest)
  | b :: rest => b :: percentDecode rest
  | [] => []

end FlashStation.Text

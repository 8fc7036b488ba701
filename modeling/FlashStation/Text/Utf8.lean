/-
# UTF-8

Characters and bytes. A sequence of bytes is text when it is the encoding of
some characters, each in its shortest form; a surrogate has no encoding.

Key definitions: `Text.Utf8.encode`, `Text.Utf8.decode?`.
-/
namespace FlashStation.Text.Utf8

/-- The encoding of one character, one to four bytes. -/
def encodeChar (c : Char) : List UInt8 :=
  let n := c.toNat
  if n < 0x80 then [n.toUInt8]
  else if n < 0x800 then [(0xC0 + n / 0x40).toUInt8, (0x80 + n % 0x40).toUInt8]
  else if n < 0x10000 then
    [(0xE0 + n / 0x1000).toUInt8, (0x80 + n / 0x40 % 0x40).toUInt8, (0x80 + n % 0x40).toUInt8]
  else
    [(0xF0 + n / 0x40000).toUInt8, (0x80 + n / 0x1000 % 0x40).toUInt8,
     (0x80 + n / 0x40 % 0x40).toUInt8, (0x80 + n % 0x40).toUInt8]

/-- The encoding of a sequence of characters. -/
def encodeChars (s : List Char) : List UInt8 :=
  s.flatMap encodeChar

/-- The encoding of a text. -/
def encode (s : String) : List UInt8 :=
  encodeChars s.toList

/-- Whether a byte continues a character. -/
def isTail (b : UInt8) : Bool :=
  0x80 ≤ b && b ≤ 0xBF

/-- The six bits that a continuing byte carries. -/
def tailBits (b : UInt8) : Nat :=
  b.toNat - 0x80

/-- The characters that some bytes encode, if they encode any. -/
def decodeChars? : List UInt8 → Option (List Char)
  | [] => some []
  | a :: rest =>
    if a < 0x80 then (decodeChars? rest).map (Char.ofNat a.toNat :: ·)
    else if a < 0xC2 then none
    else if a < 0xE0 then
      match rest with
      | b :: rest =>
        if isTail b then
          (decodeChars? rest).map (Char.ofNat ((a.toNat - 0xC0) * 0x40 + tailBits b) :: ·)
        else none
      | _ => none
    else if a < 0xF0 then
      match rest with
      | b :: c :: rest =>
        let n := (a.toNat - 0xE0) * 0x1000 + tailBits b * 0x40 + tailBits c
        if isTail b && isTail c && 0x800 ≤ n && !(0xD800 ≤ n && n ≤ 0xDFFF) then
          (decodeChars? rest).map (Char.ofNat n :: ·)
        else none
      | _ => none
    else if a < 0xF5 then
      match rest with
      | b :: c :: d :: rest =>
        let n := (a.toNat - 0xF0) * 0x40000 + tailBits b * 0x1000 + tailBits c * 0x40 + tailBits d
        if isTail b && isTail c && isTail d && 0x10000 ≤ n && n ≤ 0x10FFFF then
          (decodeChars? rest).map (Char.ofNat n :: ·)
        else none
      | _ => none
    else none

/-- The text that some bytes encode, if they encode any. -/
def decode? (bytes : List UInt8) : Option String :=
  (decodeChars? bytes).map fun s => String.ofList s

end FlashStation.Text.Utf8

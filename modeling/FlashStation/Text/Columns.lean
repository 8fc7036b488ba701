/-
# Columns of a terminal

A character takes one column of a terminal, or two if the Unicode property
`East_Asian_Width` calls it wide or full, or none if it is a mark that combines
with the character before it or a sign of format.

In a text some characters go together. Pictures of people with a tint, flags of
two letters and pictures that are joined to one take two columns like a single
picture, and some scripts write two letters as one. So a text is measured from its
end, and of what follows a character just as much is remembered as the width of
the character depends on.

A text is cut to a number of columns by dropping characters at its end and putting
a tail in their place. For that each character counts by itself.

Key definitions: `Text.columns`, `Text.Follower`, `Text.measure`, `Text.width`,
`Text.cut`.
-/
import FlashStation.Text.Columns.Table
import FlashStation.Text.Joining.Table

namespace FlashStation.Text

/-- Whether a number is in a range, both ends included. -/
def between (low high n : Nat) : Bool :=
  low ≤ n && n ≤ high

/-- The number of columns of a character that is no control character. -/
def ownColumns (c : Char) : Nat :=
  if c.toNat = 0x17D8 then 3
  else if c.toNat = 0x2D7F then 1
  else if Columns.flat.has c then 0
  else if Columns.wide.has c then 2
  else 1

/-- Whether a character is a control character. -/
def isControl (c : Char) : Bool :=
  c.toNat < 0x20 || between 0x7F 0x9F c.toNat

/-- The number of columns of a character that stands by itself. -/
def columns (c : Char) : Nat :=
  if isControl c then 0 else ownColumns c

/-! ### What follows a character -/

/-- Letters that the ones before them are written together with. -/
inductive JoinedLetter where
  /-- The letter alef of Arabic. -/
  | alef
  /-- The letter lamed of Hebrew. -/
  | lamed
  /-- The letter ya of Buginese. -/
  | ya
  /-- That letter behind its vowel. -/
  | vowelYa
  /-- A consonant of Tifinagh. -/
  | consonant
  /-- That consonant behind the sign that joins it. -/
  | joinedConsonant
  /-- The second tone of Lisu. -/
  | tone
  /-- The letter i of Old Turkic. -/
  | orkhonI
  /-- A letter of Khmer that is put below another. -/
  | subscript
  /-- The vowel e of Kirat Rai. -/
  | kiratE
  /-- Two of those vowels. -/
  | kiratAi
  deriving DecidableEq, Repr, Inhabited

/-- What is known of the characters behind one. -/
inductive Follower where
  /-- Nothing that matters. -/
  | nothing
  /-- The end of a line. -/
  | lineEnd
  /-- A tint. -/
  | tint
  /-- A letter of a flag. -/
  | flagLetter
  /-- Several letters of flags. -/
  | flagLetters
  /-- A picture. -/
  | picture
  /-- A joiner and a picture. -/
  | joinedPicture
  /-- A frame, a joiner and a picture. -/
  | joinedFrame
  /-- A letter of a flag, a joiner and a picture. -/
  | joinedFlagLetter
  /-- An even number of letters of flags, a joiner and a picture. -/
  | evenFlagLetters
  /-- An odd number of letters of flags, a joiner and a picture. -/
  | oddFlagLetters
  /-- So many letters and digits of a tag, its end, a joiner and a picture. -/
  | tag (letters digits : Nat)
  /-- A letter that is written together with the one before it, and whether a joiner
  stands in front of it. -/
  | letter (l : JoinedLetter) (joined : Bool)
  deriving DecidableEq, Repr, Inhabited

/-- What follows a character: the text, and the variation selectors in front of it. -/
structure Following where
  /-- The text. -/
  text : Follower
  /-- Whether the selector of pictures stands in front of it. -/
  asPicture : Bool
  /-- Whether the selector of letters stands in front of it. -/
  asLetter : Bool
  deriving DecidableEq, Repr, Inhabited

namespace Following

/-- A text without a selector. -/
def of (text : Follower) : Following :=
  ⟨text, false, false⟩

/-- The end of a text. -/
def nothing : Following :=
  of .nothing

/-- Whether a letter is joined to the one before it, whatever selectors are between. -/
def isLetter (f : Following) : Bool :=
  match f.text with
  | .letter _ _ => true
  | _ => false

/-- Whether a joiner and a picture follow. -/
def isJoinedPicture (f : Following) : Bool :=
  f.text == .joinedPicture || f.text == .joinedFrame

/-- With the selector of pictures in front. -/
def selectPicture (f : Following) : Following :=
  if f.isLetter || (f.isJoinedPicture && !f.asPicture) then ⟨f.text, true, false⟩
  else ⟨.nothing, true, false⟩

/-- With the selector of letters in front. -/
def selectLetter (f : Following) : Following :=
  if f.isLetter then ⟨f.text, false, true⟩ else ⟨.nothing, false, true⟩

/-- Without the selector of pictures, which selects nothing. -/
def dropPicture (f : Following) : Following :=
  if f.isLetter then ⟨f.text, false, f.asLetter⟩ else nothing

/-- Without the selector of letters, which selects nothing. -/
def dropLetter (f : Following) : Following :=
  { f with asLetter := false }

end Following

/-- Whether a letter is also joined to the one before it if signs without a width stand
between. -/
def JoinedLetter.reachesOver : JoinedLetter → Bool
  | .alef | .kiratE | .kiratAi => false
  | _ => true

/-- Whether a sign without a width keeps no letters apart. -/
def isSeeThrough (c : Char) : Bool :=
  let n := c.toNat
  n == 0x34F || between 0x17B4 0x17B5 n || between 0x180B 0x180D n || n == 0x180F || n == 0x200D ||
    between 0xFE00 0xFE0F n || between 0xE0100 0xE01EF n

/-- Whether a mark keeps no letters of Arabic apart. -/
def isTransparent (c : Char) : Bool :=
  Columns.flat.has c && Joining.types.value? c == some "T"

/-- Letters of Arabic that are joined to an alef. -/
def isLam (n : Nat) : Bool :=
  n == 0x644 || between 0x6B5 0x6B8 n || n == 0x76A || n == 0x8A6 || n == 0x8C7

/-- The forms of the letter alef. -/
def isAlef (n : Nat) : Bool :=
  n == 0x622 || n == 0x623 || n == 0x625 || n == 0x627 || between 0x671 0x673 n || n == 0x675 ||
    between 0x773 0x774 n || between 0x870 0x882 n

/-- Letters of Khmer that are put below another. -/
def isSubscript (n : Nat) : Bool :=
  between 0x1780 0x1782 n || between 0x1784 0x1787 n || between 0x1789 0x178C n ||
    between 0x178E 0x1793 n || between 0x1795 0x1798 n || between 0x179B 0x179D n ||
    n == 0x17A0 || n == 0x17A2 || n == 0x17A7 || between 0x17AB 0x17AC n || n == 0x17AF

/-- Consonants of Tifinagh. -/
def isConsonant (n : Nat) : Bool :=
  between 0x2D31 0x2D65 n || n == 0x2D6F

/-- Letters of flags. -/
def isFlagLetter (n : Nat) : Bool :=
  between 0x1F1E6 0x1F1FF n

/-- Tints. -/
def isTint (n : Nat) : Bool :=
  between 0x1F3FB 0x1F3FF n

/-- What a character is for the one before it. -/
def followerOf (c : Char) : Follower :=
  let n := c.toNat
  if isTint n then .tint
  else if isFlagLetter n then .flagLetter
  else if isAlef n then .letter .alef false
  else if n = 0x5DC then .letter .lamed false
  else if n = 0x1A10 then .letter .ya false
  else if isConsonant n then .letter .consonant false
  else if between 0xA4FC 0xA4FD n then .letter .tone false
  else if n = 0x10C03 then .letter .orkhonI false
  else if isSubscript n then .letter .subscript false
  else if n = 0x16D67 then .letter .kiratE false
  else if n = 0x16D68 then .letter .kiratAi false
  else if Columns.pictures.has c then .picture
  else .nothing

/-! ### Measuring -/

/-- The columns that a character adds in front of a letter which it is written together
with, and what it is for the one before it. -/
def measureLetter (c : Char) (l : JoinedLetter) (joined : Bool) : Option (Int × Follower) :=
  let n := c.toNat
  match l, joined with
  | .alef, _ =>
    if isLam n then some (0, .nothing)
    else if isTransparent c then some (0, .letter .alef joined)
    else none
  | .lamed, true => if n = 0x5D0 then some (0, .nothing) else none
  | .subscript, _ => if n = 0x17D2 then some (-1, .nothing) else none
  | .ya, true => if n = 0x1A17 then some (0, .letter .vowelYa true) else none
  | .vowelYa, _ => if n = 0x1A15 then some (0, .nothing) else none
  | .consonant, joined =>
    if n = 0x2D7F then some (1, .letter .joinedConsonant true)
    else if joined && isConsonant n then some (0, .nothing)
    else none
  | .joinedConsonant, _ => if isConsonant n then some (-1, .nothing) else none
  | .tone, _ => if between 0xA4F8 0xA4FB n then some (0, .nothing) else none
  | .orkhonI, true => if n = 0x10C32 then some (0, .nothing) else none
  | .kiratE, _ =>
    if n = 0x16D63 ∨ n = 0x16D69 then some (0, .nothing)
    else if n = 0x16D67 then some (0, .letter .kiratAi false)
    else if n = 0x16D68 then some (1, .letter .kiratE false)
    else none
  | .kiratAi, _ => if n = 0x16D63 then some (0, .nothing) else none
  | _, _ => none

/-- The columns that a character adds in front of a tag. A tag has three to six letters,
the last three of which may be digits. -/
def measureTag (n letters digits : Nat) : Option (Int × Follower) :=
  let isLetter := between 0xE0061 0xE007A n
  let isDigit := between 0xE0030 0xE0039 n
  if n = 0x1F3F4 ∧ (3 ≤ letters ∨ digits = 3) then some (0, .picture)
  else if isLetter && digits == 0 && letters < 6 then some (0, .tag (letters + 1) 0)
  else if isDigit && letters == 0 && digits < 3 then some (0, .tag 0 (digits + 1))
  else if isLetter && digits == 3 then some (0, .tag (letters + 1) 3)
  else none

/-- The columns that a character adds in front of what it goes together with, and what it
is for the one before it. -/
def measureTogether (c : Char) (f : Follower) : Option (Int × Follower) :=
  let n := c.toNat
  match f with
  | .letter l joined => measureLetter c l joined
  | .tint =>
    if Columns.tinted.has c then some (0, .picture)
    else if n = 0x200D then some (0, .joinedPicture)
    else none
  | .flagLetter => if isFlagLetter n then some (1, .flagLetters) else none
  | .flagLetters =>
    if isFlagLetter n then some (1, .flagLetters)
    else if n = 0x200D then some (0, .joinedPicture)
    else none
  | .picture => if n = 0x200D then some (0, .joinedPicture) else none
  | .joinedPicture =>
    if n = 0x20E3 then some (0, .joinedFrame)
    else if isFlagLetter n then some (1, .joinedFlagLetter)
    else if isTint n then some (0, .tint)
    else if n = 0xE007F then some (0, .tag 0 0)
    else if followerOf c = .picture then some (0, .picture)
    else none
  | .joinedFlagLetter | .oddFlagLetters =>
    if isFlagLetter n then some (-1, .evenFlagLetters)
    else if n = 0x200D ∧ f = .oddFlagLetters then some (0, .joinedPicture)
    else none
  | .evenFlagLetters =>
    if isFlagLetter n then some (3, .oddFlagLetters)
    else if n = 0x200D then some (0, .joinedPicture)
    else none
  | .tag letters digits => measureTag n letters digits
  | .nothing | .lineEnd | .joinedFrame => none

/-- The columns that a character beyond the first ones adds in front of a text. -/
def measureBeyond (c : Char) (f : Following) : Int × Following :=
  let alone : Int × Following := (ownColumns c, .of (followerOf c))
  if c.toNat = 0xFE0F then (0, f.selectPicture)
  else if c.toNat = 0xFE0E then (0, f.selectLetter)
  else if f.asLetter && Columns.lettered.has c then (1, .nothing)
  else
    let f := f.dropLetter
    let together : Int × Following :=
      ((measureTogether c f.text).map fun r => (r.1, Following.of r.2)).getD alone
    match f.text with
    | .letter l joined =>
      if l.reachesOver && c.toNat == 0x200D then (0, .of (.letter l true))
      else if l.reachesOver && isSeeThrough c then (0, .of (.letter l joined))
      else together
    | _ => together

/-- The columns that a character adds in front of a text, and what follows the
character before it. -/
def measure (c : Char) (f : Following) : Int × Following :=
  if f.asPicture && Columns.pictured.has c then
    (if f.isJoinedPicture then 0 else 2, .of .picture)
  else
    let f := if f.asPicture then f.dropPicture else f
    if c.toNat ≤ 0xA0 then
      if c = '\n' then (1, .of .lineEnd)
      else if c = '\r' ∧ f.text = .lineEnd then (0, .nothing)
      else (1, .nothing)
    else measureBeyond c f

/-- The number of columns of a text. -/
def width (s : List Char) : Nat :=
  (s.foldr (fun c (sum, f) => let r := measure c f; (sum + r.1, r.2)) ((0 : Int), Following.nothing)).1.toNat

/-! ### Cutting -/

/-- The characters from the front of a text that fit into some columns. Nothing
is added once the columns are full. -/
def fitting : Nat → List Char → List Char
  | _, [] => []
  | room, c :: s =>
    if columns c < room then c :: fitting (room - columns c) s
    else if columns c = room then [c]
    else []

/-- A text that leaves room for a tail in some columns, or as much of it as does and the
tail behind it. -/
def cut (limit : Nat) (tail s : List Char) : List Char :=
  let room := limit - width tail
  if width s ≤ room then s else fitting room s ++ tail

end FlashStation.Text

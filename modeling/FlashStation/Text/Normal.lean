/-
# Composition

The same letter with marks can be written in several ways. To compare texts, they
are taken apart into letters and single marks, the marks behind a letter are put
into the order of their classes, and letters and marks are put together again as
far as there are composites. This is the normalization form C of Unicode.

A mark is composed with the last letter before it unless a mark between them has
the same class or a greater one.

Key definitions: `Text.Normal.decompose`, `Text.Normal.ordered`,
`Text.Normal.compose`, `Text.composed`.
-/
import FlashStation.Text.Normal.Table

namespace FlashStation.Text.Normal

/-! ### Hangul -/

/-- The first syllable of Hangul. -/
def firstSyllable : Nat := 0xAC00

/-- The number of syllables with the same consonant in front. -/
def perLead : Nat := 588

/-- The number of syllables that differ in the consonant at their end only. -/
def perVowel : Nat := 28

/-- The letters of a syllable. -/
def syllable? (n : Nat) : Option (List Nat) :=
  if firstSyllable ≤ n ∧ n < firstSyllable + 19 * perLead then
    let s := n - firstSyllable
    some ([0x1100 + s / perLead, 0x1161 + s % perLead / perVowel] ++
      if s % perVowel = 0 then [] else [0x11A7 + s % perVowel])
  else none

/-- The syllable of two letters, or of a syllable and a consonant at its end. -/
def joined? (a b : Nat) : Option Nat :=
  if 0x1100 ≤ a ∧ a < 0x1113 ∧ 0x1161 ≤ b ∧ b < 0x1176 then
    some (firstSyllable + (a - 0x1100) * perLead + (b - 0x1161) * perVowel)
  else if firstSyllable ≤ a ∧ a < firstSyllable + 19 * perLead ∧ (a - firstSyllable) % perVowel = 0 ∧
      0x11A7 < b ∧ b < 0x11C3 then
    some (a + (b - 0x11A7))
  else none

/-! ### Taking apart -/

/-- How deep composites are nested at most. -/
def nesting : Nat := 3

/-- The letters and marks that a character is made of; composites are opened so many
times. -/
def parts : Nat → Nat → List Nat
  | 0, n => [n]
  | fuel + 1, n =>
    match composites.replacement? n with
    | some [letter, mark] => parts fuel letter ++ [mark]
    | _ => (replaced.replacement? n).getD [n]

/-- The letters and marks of a text. -/
def decompose (s : List Nat) : List Nat :=
  s.flatMap fun n => (syllable? n).getD (parts nesting n)

/-- The class of a character; letters have the class 0. -/
def classOf (n : Nat) : Nat :=
  match combining.find? n with
  | none => 0
  | some s => s.value.foldl (fun k c => k * 10 + (c.toNat - '0'.toNat)) 0

/-- Puts a mark at the end of a text, which is given from its end, but in front of
marks of greater classes. -/
def place (n : Nat) : List Nat → List Nat
  | [] => [n]
  | m :: front =>
    if classOf n ≠ 0 ∧ classOf n < classOf m then m :: place n front else n :: m :: front

/-- A text with its marks in order. -/
def ordered (s : List Nat) : List Nat :=
  (s.foldl (fun front n => place n front) []).reverse

/-! ### Putting together -/

/-- The place of two characters in the table of pairs. -/
def pairKey (a b : Nat) : Nat :=
  a * 0x110000 + b

/-- The composites of two characters. -/
def pairs : Table Nat :=
  .ofList (composites.spans.toList.filterMap fun s =>
    match s.value.target with
    | [a, b] => some ⟨pairKey a b, pairKey a b, s.first⟩
    | _ => none)

/-- The composite of two characters, if there is one. -/
def composite? (a b : Nat) : Option Nat :=
  (joined? a b).or ((pairs.find? (pairKey a b)).map (·.value))

/-- A text that is put together: what is finished, given from its end, the last
letter, and the marks behind it that stay, given from the end. -/
structure Assembly where
  /-- What is finished. -/
  front : List Nat
  /-- The last letter, if there is one. -/
  letter : Option Nat
  /-- The marks behind it. -/
  marks : List Nat

namespace Assembly

/-- Everything so far, given from its end. -/
def all (a : Assembly) : List Nat :=
  a.marks ++ a.letter.toList ++ a.front

/-- Whether a mark of a class reaches the letter. -/
def reaches (a : Assembly) (k : Nat) : Bool :=
  match a.marks with
  | [] => true
  | m :: _ => classOf m < k

/-- Adds a character. -/
def add (a : Assembly) (n : Nat) : Assembly :=
  let k := classOf n
  let whole := if a.reaches k then a.letter.bind (composite? · n) else none
  match whole with
  | some c => { a with letter := some c }
  | none => if k = 0 then ⟨a.all, some n, []⟩ else { a with marks := n :: a.marks }

end Assembly

/-- Composes letters with the marks behind them. -/
def compose (s : List Nat) : List Nat :=
  (s.foldl Assembly.add ⟨[], none, []⟩).all.reverse

end FlashStation.Text.Normal

namespace FlashStation.Text

/-- A text in its composed form. -/
def composed (s : List Char) : List Char :=
  (Normal.compose (Normal.ordered (Normal.decompose (s.map Char.toNat)))).map Char.ofNat

end FlashStation.Text

/-
# Joiners

Two signs without a width say whether the letters beside them are joined. They
mean something behind the sign that takes the vowel of a letter away, and the one
that parts letters also between two letters that would be joined.

Key definitions: `Text.Joining.fits`.
-/
import FlashStation.Text.Joining.Table
import FlashStation.Text.Normal

namespace FlashStation.Text.Joining

/-- The sign that parts letters. -/
def parter : Char := '\u200C'

/-- The sign that joins letters. -/
def joiner : Char := '\u200D'

/-- The class of the signs that take a vowel away. -/
def silencing : Nat := 9

/-- Whether the next character that is not transparent has one of two types. -/
def reaches (wanted : List String) : List Char → Bool
  | [] => false
  | c :: rest =>
    match types.value? c with
    | none => false
    | some t => if wanted.contains t then true else t == "T" && reaches wanted rest

/-- Whether every joiner in a text means something. `before` is what stands in front
of the text, given from its end. -/
def fits (before : List Char) : List Char → Bool
  | [] => true
  | c :: rest =>
    (if c = joiner ∨ c = parter then
      (before.head?.map fun b => Normal.classOf b.toNat == silencing).getD false ||
        (c = parter && reaches ["L", "D"] before && reaches ["R", "D"] rest)
    else true) && fits (c :: before) rest

end FlashStation.Text.Joining

/-
# Categories

The general category of a character says what it is used for: a letter, a mark, a
number, a punctuation mark, a symbol, a separator or something else.

Key definitions: `Text.category`, `Text.isMark`.
-/
import FlashStation.Text.Category.Table

namespace FlashStation.Text

/-- The category of a character, by its short name; what is not assigned has `Cn`. -/
def category (c : Char) : String :=
  (Category.classes.value? c).getD
    (if (0xE000 ≤ c.toNat ∧ c.toNat ≤ 0xF8FF) ∨ (0xF0000 ≤ c.toNat ∧ c.toNat ≤ 0xFFFFD) ∨
        (0x100000 ≤ c.toNat ∧ c.toNat ≤ 0x10FFFD) then "Co" else "Cn")

/-- Whether a character belongs to the one before it. -/
def isMark (c : Char) : Bool :=
  ["Mn", "Mc", "Me"].contains (category c)

end FlashStation.Text

/-
# Letters and digits of all scripts

A character is a letter by its category, or because it is used like one. A number
is a digit or another sign for a number.

Key definitions: `Text.isLetter`, `Text.isLetterOrNumber`.
-/
import FlashStation.Text.Category
import FlashStation.Text.Letter.Table

namespace FlashStation.Text

/-- The categories of letters and of numbers that are written as letters. -/
def letterCategories : List String := ["Lu", "Ll", "Lt", "Lm", "Lo", "Nl"]

/-- The categories of numbers. -/
def numberCategories : List String := ["Nd", "Nl", "No"]

/-- Whether a character has the Unicode property `Alphabetic`. -/
def isLetter (c : Char) : Bool :=
  letterCategories.contains (category c) || Letter.signs.has c

/-- Whether a character is a letter or a number. -/
def isLetterOrNumber (c : Char) : Bool :=
  isLetter c || numberCategories.contains (category c)

end FlashStation.Text

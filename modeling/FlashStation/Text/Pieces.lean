/-
# Taking a text apart at a character

The pieces of a text are what stands before, between and behind the places
where a character occurs; there is always one more of them than there are such
places.

Key definitions: `Text.pieces`, `Text.split`.
-/
namespace FlashStation.Text

/-- The pieces of a sequence of characters. -/
def pieces (sep : Char) : List Char → List (List Char)
  | [] => [[]]
  | c :: s =>
    if c = sep then [] :: pieces sep s
    else
      match pieces sep s with
      | [] => [[c]]
      | p :: more => (c :: p) :: more

/-- The pieces of a text. -/
def split (sep : Char) (s : String) : List String :=
  (pieces sep s.toList).map fun p => String.ofList p

/-- Pieces put together again, with a text between any two. -/
def join (sep : String) : List String → String
  | [] => ""
  | [p] => p
  | p :: more => p ++ sep ++ join sep more

end FlashStation.Text

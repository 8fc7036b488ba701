/-
# JSON values and their text

A value is a tree; the members of an object keep the order in which they were
put there. There are two written forms: the compact one without any blank, and
the indented one, in which every item and member stands on its own line, two
spaces deeper than what holds it. Numbers are natural: nothing that is reported
is negative or has a fraction.

Key definitions: `Json`, `Json.compact`, `Json.indented`, `Json.quote`.
-/
import FlashStation.Text.Numeral

namespace FlashStation

/-- A JSON value. -/
inductive Json where
  /-- The value `null`. -/
  | null
  /-- A truth value. -/
  | bool (b : Bool)
  /-- A natural number. -/
  | num (n : Nat)
  /-- A text. -/
  | str (s : String)
  /-- A list of values. -/
  | arr (items : List Json)
  /-- Named values, in the order of writing. -/
  | obj (members : List (String × Json))
  deriving Inhabited, Repr

namespace Json

/-- A value that may be absent, `null` when it is. -/
def ofOption (f : α → Json) : Option α → Json
  | none => .null
  | some a => f a

/-- The written form of one character inside quotes. -/
def escape (c : Char) : List Char :=
  if c = '"' then ['\\', '"']
  else if c = '\\' then ['\\', '\\']
  else if c = '\x08' then ['\\', 'b']
  else if c = '\x0c' then ['\\', 'f']
  else if c = '\n' then ['\\', 'n']
  else if c = '\r' then ['\\', 'r']
  else if c = '\t' then ['\\', 't']
  else if c.toNat < 0x20 then ['\\', 'u', '0', '0'] ++ Text.hexByte c.toNat.toUInt8
  else [c]

/-- A text in quotes. -/
def quote (s : String) : List Char :=
  '"' :: (s.toList.flatMap escape ++ ['"'])

/-- The text of a truth value. -/
def boolText : Bool → List Char
  | true => ['t', 'r', 'u', 'e']
  | false => ['f', 'a', 'l', 's', 'e']

mutual

/-- The compact form. -/
def compact : Json → List Char
  | .null => ['n', 'u', 'l', 'l']
  | .bool b => boolText b
  | .num n => Nat.toDigits 10 n
  | .str s => quote s
  | .arr [] => ['[', ']']
  | .arr (v :: rest) => '[' :: (compact v ++ compactItems rest)
  | .obj [] => ['\x7b', '\x7d']
  | .obj ((k, v) :: rest) => '\x7b' :: (quote k ++ ':' :: (compact v ++ compactMembers rest))

/-- The items after the first, and the end of the list. -/
def compactItems : List Json → List Char
  | [] => [']']
  | v :: rest => ',' :: (compact v ++ compactItems rest)

/-- The members after the first, and the end of the object. -/
def compactMembers : List (String × Json) → List Char
  | [] => ['\x7d']
  | (k, v) :: rest => ',' :: (quote k ++ ':' :: (compact v ++ compactMembers rest))

end

/-- A new line that starts at a depth. -/
def newline (depth : Nat) : List Char :=
  '\n' :: List.replicate (2 * depth) ' '

mutual

/-- The indented form of a value that stands at a depth. -/
def indentedAt (depth : Nat) : Json → List Char
  | .null => ['n', 'u', 'l', 'l']
  | .bool b => boolText b
  | .num n => Nat.toDigits 10 n
  | .str s => quote s
  | .arr [] => ['[', ']']
  | .arr (v :: rest) =>
    '[' :: (newline (depth + 1) ++ indentedAt (depth + 1) v ++ indentedItems depth rest)
  | .obj [] => ['\x7b', '\x7d']
  | .obj ((k, v) :: rest) =>
    '\x7b' :: (newline (depth + 1) ++ quote k ++ ':' :: ' ' ::
      (indentedAt (depth + 1) v ++ indentedMembers depth rest))

/-- The items after the first, and the end of the list. -/
def indentedItems (depth : Nat) : List Json → List Char
  | [] => newline depth ++ [']']
  | v :: rest => ',' :: (newline (depth + 1) ++ indentedAt (depth + 1) v ++ indentedItems depth rest)

/-- The members after the first, and the end of the object. -/
def indentedMembers (depth : Nat) : List (String × Json) → List Char
  | [] => newline depth ++ ['\x7d']
  | (k, v) :: rest =>
    ',' :: (newline (depth + 1) ++ quote k ++ ':' :: ' ' ::
      (indentedAt (depth + 1) v ++ indentedMembers depth rest))

end

/-- The indented form. -/
def indented (v : Json) : String :=
  String.ofList (indentedAt 0 v)

end Json

end FlashStation

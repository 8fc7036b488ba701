/-
# TOML documents as tables

A document is one table. Tables inside it come about in several ways, and how a
table came about decides what may still be added to it: a table that a header
names is defined once; one that a header only passes through may still get a
header of its own; one made by a dotted key grows by dotted keys alone; and one
in braces is closed.

Key definitions: `Toml`, `Toml.Origin`, `Toml.descend`, `Toml.putValue`,
`Toml.openTable`, `Toml.openElement`.
-/
namespace FlashStation

/-- How a table came about. -/
inductive Toml.Origin where
  /-- It was written in braces. -/
  | braces
  /-- A header names it. -/
  | header
  /-- A header passes through it. -/
  | passage
  /-- A dotted key passes through it. -/
  | dotted
  deriving DecidableEq, Repr, Inhabited

/-- A TOML value. -/
inductive Toml where
  /-- A text. -/
  | text (s : String)
  /-- A whole number. -/
  | integer (n : Int)
  /-- A truth value. -/
  | truth (b : Bool)
  /-- A number with a fraction or an exponent, or an infinite one, or none. -/
  | float
  /-- A date, a time, or both. -/
  | moment
  /-- A list. -/
  | list (items : List Toml)
  /-- Tables that headers in double brackets add. -/
  | elements (tables : List (List (String × Toml)))
  /-- A table. -/
  | table (origin : Toml.Origin) (members : List (String × Toml))
  deriving Inhabited

namespace Toml

/-- Named values. -/
abbrev Members := List (String × Toml)

/-- The value of a name. -/
def find? (members : Members) (name : String) : Option Toml :=
  (members.find? (·.1 == name)).map (·.2)

/-- The members with the value of a name replaced. -/
def replace (members : Members) (name : String) (value : Toml) : Members :=
  members.map fun m => if m.1 == name then (name, value) else m

/-- Changes a table that a path leads to. Tables that are missing on the way
come about as passages of a header or of a dotted key. Of an array of tables the
last element is meant. A dotted key does not pass a table that a header names,
and nothing passes a value. -/
def descend (isDotted : Bool) (change : Origin → Members → Option Members) :
    List String → Origin → Members → Option Members
  | [], origin, members => change origin members
  | name :: rest, _, members =>
    match find? members name with
    | none => do
      let origin : Origin := if isDotted then .dotted else .passage
      let inner ← descend isDotted change rest origin []
      pure (members ++ [(name, .table origin inner)])
    | some (.table origin inner) =>
      if origin = .braces ∨ (isDotted ∧ origin = .header) then none
      else do
        let inner ← descend isDotted change rest origin inner
        pure (replace members name (.table origin inner))
    | some (.elements tables) =>
      match tables.getLast? with
      | none => none
      | some last => do
        let last ← descend isDotted change rest .header last
        pure (replace members name (.elements (tables.dropLast ++ [last])))
    | some _ => none

/-- Puts a value into a table under a dotted key, unless the name is taken. A
dotted key ends in a table that dotted keys have made. -/
def putValue (path : List String) (value : Toml) (origin : Origin) (members : Members) :
    Option Members :=
  match path.getLast? with
  | none => none
  | some name =>
    descend true (fun reached inner =>
      if (reached = .dotted) ↔ (path.dropLast = []) then none
      else if (find? inner name).isSome then none
      else some (inner ++ [(name, value)])) path.dropLast origin members

/-- Opens the table that a header names. -/
def openTable (path : List String) (root : Members) : Option Members :=
  match path.getLast? with
  | none => none
  | some name =>
    descend false (fun _ inner =>
      match find? inner name with
      | none => some (inner ++ [(name, .table .header [])])
      | some (.table .passage members) => some (replace inner name (.table .header members))
      | some _ => none) path.dropLast .header root

/-- Adds the element that a header in double brackets names. -/
def openElement (path : List String) (root : Members) : Option Members :=
  match path.getLast? with
  | none => none
  | some name =>
    descend false (fun _ inner =>
      match find? inner name with
      | none => some (inner ++ [(name, .elements [[]])])
      | some (.elements tables) => some (replace inner name (.elements (tables ++ [[]])))
      | some _ => none) path.dropLast .header root

end Toml

end FlashStation

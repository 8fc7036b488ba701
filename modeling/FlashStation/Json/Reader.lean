/-
# Reading a JSON document into a record

A reader takes a document's bytes and gives a value and the bytes behind it.
What it wants is known before it looks, so JSON of another kind is found at
once; where a single word stands that is of another kind, the word itself must
still be whole.

A record is written as an object, whose members may come in any order, or as a
list of its fields. A member that the record does not know is passed over; one
that it knows may come once.

Key definitions: `Json.Reader`, `Json.record`, `Json.list`, `Json.document`.
-/
import FlashStation.Json.Skip

namespace FlashStation.Json

/-- Reads a value from the front of some bytes. -/
abbrev Reader (α : Type) :=
  List UInt8 → Except Fault (α × List UInt8)

/-- The fault of a place where a value of another kind is wanted. A list or an
object is refused unread, a word once it is known to be whole. -/
def unwanted : List UInt8 → Fault
  | [] => .truncated
  | b :: s =>
    let word : Except Fault Unit :=
      if b = code 'n' then (name ['u', 'l', 'l'] s).map fun _ => ()
      else if b = code 't' then (name ['r', 'u', 'e'] s).map fun _ => ()
      else if b = code 'f' then (name ['a', 'l', 's', 'e'] s).map fun _ => ()
      else if b = code '"' then (quoted s).map fun _ => ()
      else if b = code '-' then do
        let n ← figures .truncated s
        (n.1.value).map fun _ => ()
      else if isDigit b then do
        let n ← figures .truncated (b :: s)
        (n.1.value).map fun _ => ()
      else if b = code '[' ∨ b = code '\x7b' then .ok ()
      else .error .malformed
    match word with
    | .error f => f
    | .ok () => .mistyped

/-- A text. -/
def text : Reader String := fun s =>
  match dropSpace s with
  | b :: t => if b = code '"' then quoted t else .error (unwanted (b :: t))
  | [] => .error .truncated

/-- A truth value. -/
def truth : Reader Bool := fun s =>
  match dropSpace s with
  | b :: t =>
    if b = code 't' then (name ['r', 'u', 'e'] t).map (true, ·)
    else if b = code 'f' then (name ['a', 'l', 's', 'e'] t).map (false, ·)
    else .error (unwanted (b :: t))
  | [] => .error .truncated

/-- A natural number below a bound. -/
def natural (bound : Nat) : Reader Nat := fun s =>
  match dropSpace s with
  | b :: t =>
    if isDigit b then do
      let (n, rest) ← figures .truncated (b :: t)
      match ← n.value with
      | some v => if v < bound then .ok (v, rest) else .error .mistyped
      | none => .error .mistyped
    else .error (unwanted (b :: t))
  | [] => .error .truncated

/-- A value, or `null` for none. -/
def optional (item : Reader α) : Reader (Option α) := fun s =>
  match dropSpace s with
  | b :: t =>
    if b = code 'n' then (name ['u', 'l', 'l'] t).map (none, ·)
    else (item (b :: t)).map fun r => (some r.1, r.2)
  | [] => .error .truncated

/-! ### Lists -/

/-- Whether another item of a list follows. The end of the list stays unread;
`first` says that no item has been read. -/
def nextItem (first : Bool) : Reader Bool := fun s =>
  match dropSpace s with
  | [] => .error .truncated
  | b :: t =>
    if b = code ']' then .ok (false, b :: t)
    else if first then .ok (true, b :: t)
    else if b = code ',' then
      match dropSpace t with
      | [] => .error .truncated
      | c :: u => if c = code ']' then .error .malformed else .ok (true, c :: u)
    else .error .malformed

/-- The end of a list. -/
def endList (s : List UInt8) : Except Fault (List UInt8) :=
  match dropSpace s with
  | [] => .error .truncated
  | b :: t => if b = code ']' then .ok t else .error .malformed

/-- The items of a list, up to its end. An item is never empty. -/
def items (item : Reader α) (first : Bool) (s : List UInt8) : Except Fault (List α × List UInt8) :=
  match nextItem first s with
  | .error f => .error f
  | .ok (false, s) => .ok ([], s)
  | .ok (true, t) =>
    match item t with
    | .error f => .error f
    | .ok (a, r) =>
      if r.length < s.length then (items item false r).map fun l => (a :: l.1, l.2)
      else .error .malformed
termination_by s.length

/-- A list of values. -/
def list (item : Reader α) : Reader (List α) := fun s =>
  match dropSpace s with
  | b :: t =>
    if b = code '[' then do
      let (as, rest) ← items item true t
      let rest ← endList rest
      .ok (as, rest)
    else .error (unwanted (b :: t))
  | [] => .error .truncated

/-! ### Records -/

/-- A field of a record that is being filled: its name, whether it is filled,
and how it is read. -/
structure Field (σ : Type) where
  /-- The name of the member that holds it. -/
  name : String
  /-- Whether the record has it already. -/
  filled : σ → Bool
  /-- Reads it into the record. -/
  fill : σ → Reader σ

/-- A field that is read by `item`, kept in an optional place of the record. -/
def Field.of (name : String) (get : σ → Option α) (set : σ → α → σ) (item : Reader α) : Field σ where
  name
  filled r := (get r).isSome
  fill r s := (item s).map fun p => (set r p.1, p.2)

/-- The fields of a record in the order of a list; a shorter list leaves the
last ones unfilled. -/
def positional : List (Field σ) → Bool → σ → Reader σ
  | [], _, r, s => .ok (r, s)
  | field :: more, first, r, s =>
    match nextItem first s with
    | .error f => .error f
    | .ok (false, s) => .ok (r, s)
    | .ok (true, s) =>
      match field.fill r s with
      | .error f => .error f
      | .ok (r, s) => positional more false r s

/-- The name of the next member of an object, if there is one. The end of the
object stays unread. -/
def nextKey (first : Bool) : Reader (Option String) := fun s =>
  match dropSpace s with
  | [] => .error .truncated
  | b :: t =>
    if b = code '\x7d' then .ok (none, b :: t)
    else if first then
      if b = code '"' then (quoted t).map fun p => (some p.1, p.2) else .error .malformed
    else if b = code ',' then
      match dropSpace t with
      | [] => .error .truncated
      | c :: u =>
        if c = code '"' then (quoted u).map fun p => (some p.1, p.2) else .error .malformed
    else .error .malformed

/-- The colon behind a member's name. -/
def colon (s : List UInt8) : Except Fault (List UInt8) :=
  match dropSpace s with
  | [] => .error .truncated
  | b :: t => if b = code ':' then .ok t else .error .malformed

/-- The value of the member `key`: read into the record if it is a field of it,
and passed over if not. A field that is filled already is refused unread. -/
def member (fields : List (Field σ)) (key : String) (r : σ) : Reader σ := fun s =>
  match fields.find? (·.name == key) with
  | none => do
    let s ← colon s
    let s ← skip s
    .ok (r, s)
  | some field =>
    if field.filled r then .error .mistyped
    else do
      let s ← colon s
      field.fill r s

/-- The members of an object, up to its end. A member is never empty. -/
def members (fields : List (Field σ)) (first : Bool) (r : σ) (s : List UInt8) :
    Except Fault (σ × List UInt8) :=
  match nextKey first s with
  | .error f => .error f
  | .ok (none, s) => .ok (r, s)
  | .ok (some key, t) =>
    match member fields key r t with
    | .error f => .error f
    | .ok (r, u) => if u.length < s.length then members fields false r u else .error .malformed
termination_by s.length

/-- The end of an object. -/
def endObject (s : List UInt8) : Except Fault (List UInt8) :=
  match dropSpace s with
  | [] => .error .truncated
  | b :: t => if b = code '\x7d' then .ok t else .error .malformed

/-- A record: its fields, the empty one to start from, and what it is when its
members are read; a field that must be there and is not makes it `none`. -/
def record (fields : List (Field σ)) (empty : σ) (finish : σ → Option α) : Reader α := fun s =>
  match dropSpace s with
  | b :: t =>
    if b = code '[' then do
      let (r, rest) ← positional fields true empty t
      match finish r with
      | none => .error .mistyped
      | some a => (endList rest).map (a, ·)
    else if b = code '\x7b' then do
      let (r, rest) ← members fields true empty t
      match finish r with
      | none => .error .mistyped
      | some a => (endObject rest).map (a, ·)
    else .error (unwanted (b :: t))
  | [] => .error .truncated

/-- A whole document: one value with nothing but blanks around it. -/
def document (item : Reader α) (s : List UInt8) : Except Fault α :=
  match item s with
  | .error f => .error f
  | .ok (a, rest) => if dropSpace rest = [] then .ok a else .error .malformed

end FlashStation.Json

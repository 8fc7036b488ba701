/-
# The menu of ports

The operator picks a port from a menu with one line for each. Keys move a cursor,
which goes round at the ends; others pick the line with the cursor or leave the
menu; all others do nothing. A menu with more lines than the screen has room for
is shown page by page.

Key definitions: `menuLabel`, `Key`, `Key.readAll`, `Menu.answer`, `Menu.lines`.
-/
import FlashStation.Serial.Board
import FlashStation.Text.Columns
import FlashStation.Text.Utf8

namespace FlashStation

/-- A port's vendor and product numbers. -/
def DetectedPort.numbers (p : DetectedPort) : String :=
  match p.info.vid, p.info.pid with
  | some vid, some pid => s!" ({Text.hexUpper 4 vid.toNat}:{Text.hexUpper 4 pid.toNat})"
  | _, _ => ""

/-- A port's product. -/
def DetectedPort.productText (p : DetectedPort) : String :=
  (p.info.product.map fun t => s!" - {t}").getD ""

/-- A port's line in a menu. -/
def menuLabel (p : DetectedPort) : String :=
  let device := if p.kind.isKnown then s!" [{p.kind.name}]" else p.numbers
  s!"{p.info.name}{device}{p.productText}"

/-- The columns beside the labels of a menu. -/
def menuMargin : Nat := 4

/-- The labels of a menu on a screen of some columns. -/
def menuLabels (width : Nat) (ports : List DetectedPort) : List String :=
  ports.map fun p => String.ofList (Text.cut (width - menuMargin) ['…'] (menuLabel p).toList)

/-- What a key means in a menu. -/
inductive Key where
  /-- Move the cursor down. -/
  | down
  /-- Move the cursor up. -/
  | up
  /-- Go to the next page. -/
  | nextPage
  /-- Go to the page before. -/
  | previousPage
  /-- Pick the line with the cursor. -/
  | pick
  /-- Leave the menu. -/
  | leave
  /-- Nothing. -/
  | other
  deriving DecidableEq, Repr, Inhabited

namespace Key

/-- The byte that begins the sequence of a key without a character. -/
def escape : UInt8 := 0x1B

/-- The byte that goes on with it. -/
def bracket : UInt8 := 0x5B

/-- The key of a byte. The bytes of characters beyond ASCII mean nothing. -/
def ofByte (b : UInt8) : Key :=
  let c := Char.ofNat b.toNat
  if c = '\n' ∨ c = '\r' ∨ c = ' ' then .pick
  else if c = 'j' ∨ c = '\t' then .down
  else if c = 'k' then .up
  else if c = 'h' then .previousPage
  else if c = 'l' then .nextPage
  else if c = 'q' then .leave
  else .other

/-- The key of the byte that ends a short sequence, if one does. -/
def ofEnd? (b : UInt8) : Option Key :=
  let c := Char.ofNat b.toNat
  if c = 'A' ∨ c = 'Z' then some .up
  else if c = 'B' then some .down
  else if c = 'C' then some .nextPage
  else if c = 'D' then some .previousPage
  else if c = 'H' ∨ c = 'F' then some .other
  else none

/-- A key behind the byte that begins a sequence, and the bytes behind it. That byte
alone at the end is a key, too; a sequence of another kind has three more bytes with
a bracket and one without. -/
def sequence : List UInt8 → Key × List UInt8
  | [] => (.leave, [])
  | b :: rest =>
    if b = bracket then
      match rest with
      | [] => (.other, [])
      | c :: rest =>
        match ofEnd? c with
        | some key => (key, rest)
        | none => (.other, rest.drop 1)
    else (.other, rest)

theorem length_sequence_le (s : List UInt8) : (sequence s).2.length ≤ s.length := by
  fun_cases sequence s <;> simp +arith

/-- The keys that were typed, from their bytes. -/
def readAll : List UInt8 → List Key
  | [] => []
  | b :: rest =>
    if b = escape then (sequence rest).1 :: readAll (sequence rest).2
    else ofByte b :: readAll rest
termination_by s => s.length
decreasing_by
  · exact Nat.lt_succ_of_le (length_sequence_le rest)
  · exact Nat.lt_succ_self _

end Key

/-- A menu: how many lines it has, how many of them a page shows, the page and the
line with the cursor. -/
structure Menu where
  /-- The number of lines. -/
  size : Nat
  /-- The number of lines of a page. -/
  room : Nat
  /-- The page. -/
  page : Nat
  /-- The line with the cursor. -/
  cursor : Nat
  deriving DecidableEq, Repr, Inhabited

namespace Menu

/-- The number of pages. -/
def pages (m : Menu) : Nat :=
  (m.size + m.room - 1) / m.room

/-- The menu with the cursor on a line, and the page that shows the line. -/
def move (m : Menu) (line : Nat) : Menu :=
  { m with
    cursor := line
    page := if line < m.page * m.room ∨ (m.page + 1) * m.room ≤ line then line / m.room else m.page }

/-- The menu with the cursor on a line at first. -/
def start (size room line : Nat) : Menu :=
  move ⟨size, room, 0, line⟩ line

/-- The menu after a key that only moves the cursor. A menu of one page does not
turn pages. -/
def step (m : Menu) : Key → Menu
  | .down => m.move ((m.cursor + 1) % m.size)
  | .up => m.move ((m.cursor + m.size - 1) % m.size)
  | .nextPage =>
    if m.pages ≤ 1 then m
    else
      let page := (m.page + 1) % m.pages
      { m with page, cursor := page * m.room }
  | .previousPage =>
    if m.pages ≤ 1 then m
    else
      let page := (m.page + m.pages - 1) % m.pages
      { m with page, cursor := page * m.room }
  | .pick | .leave | .other => m

/-- The line that keys pick; none if the menu is left or the keys come to an end. -/
def answer (m : Menu) : List Key → Option Nat
  | [] => none
  | .pick :: _ => some m.cursor
  | .leave :: _ => none
  | key :: keys => (m.step key).answer keys

/-- What a menu shows of its labels. -/
def lines (m : Menu) (labels : List String) : List String :=
  let shown := (labels.zipIdx.drop (m.page * m.room)).take m.room
  shown.map fun l => (if l.2 = m.cursor then "❯ " else "  ") ++ l.1

end Menu

/-- The number of lines of a screen. -/
def screenRows : Nat := 24

/-- The lines of a screen that a menu does not take. -/
def menuHead : Nat := 2

/-- The menu of some lines with the cursor on one of them. -/
def Menu.open (size line : Nat) : Menu :=
  Menu.start size (screenRows - menuHead) line

end FlashStation

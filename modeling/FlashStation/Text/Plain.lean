/-
# Control sequences

A terminal obeys control characters and the sequences that the character ESC begins,
and shows the others. A sequence is a letter, a letter behind signs, parameters in
front of a letter behind a bracket, a title that a bell ends, or something that only
another ESC ends. Blanks of ASCII show up within all but the last two, and end them.

Key definitions: `Text.Control`, `Text.Control.next`, `Text.plain`.
-/

namespace FlashStation.Text

/-- Where a terminal is within a control sequence. -/
inductive Control where
  /-- Outside of any. -/
  | outside
  /-- Behind ESC. -/
  | escape
  /-- Behind ESC and signs. -/
  | signs
  /-- Among parameters. -/
  | parameters
  /-- Within a title. -/
  | title
  /-- Within something that only another ESC ends. -/
  | hidden
  deriving DecidableEq, Repr, Inhabited

/-- Whether a control character is a blank. -/
def isControlBlank (c : Char) : Bool :=
  c = '\t' || c = '\n' || c = '\x0c' || c = '\r'

namespace Control

/-- Where a character leads to that is no control character but of ASCII, and whether it is
shown. -/
def obey (s : Control) (c : Char) : Control × Bool :=
  match s with
  | .outside => (.outside, true)
  | .escape =>
    if c < '0' then (.signs, false)
    else if c = '[' then (.parameters, false)
    else if c = ']' then (.title, false)
    else if c = 'P' ∨ c = 'X' ∨ c = '^' ∨ c = '_' then (.hidden, false)
    else (.outside, false)
  | .signs => (if c < '0' then .signs else .outside, false)
  | .parameters => (if c < '@' then .parameters else .outside, false)
  | .title => (.title, false)
  | .hidden => (.hidden, false)

/-- Where a character leads to, and whether it is shown. -/
def next (s : Control) (c : Char) : Control × Bool :=
  if c = '\x1b' then (.escape, false)
  else if c = '\x18' ∨ c = '\x1a' then (.outside, false)
  else if 0x80 ≤ c.toNat then (s, s = .outside)
  else if c = '\x7f' then (s, false)
  else if c < ' ' then
    match s with
    | .title => (if c = '\x07' then .outside else .title, false)
    | .hidden => (.hidden, false)
    | _ => if isControlBlank c then (.outside, true) else (s, false)
  else s.obey c

/-- The characters of a text that are shown. -/
def shown (s : Control) : List Char → List Char
  | [] => []
  | c :: rest =>
    let (t, isShown) := s.next c
    if isShown then c :: t.shown rest else t.shown rest

end Control

/-- A text without its control sequences. -/
def plain (s : String) : String :=
  String.ofList (Control.outside.shown s.toList)

end FlashStation.Text

/-
# Going through a pattern

A cursor stands in front of a character of a pattern. If blanks mean nothing it goes
past them, and past notes from a `#` to the end of the line.

Key definitions: `Pattern.Cursor`, `Pattern.Cursor.step`, `Pattern.Cursor.stepOn`,
`Pattern.Cursor.takeOn`, `Pattern.Reader`.
-/
import FlashStation.Pattern.Fault
import FlashStation.Text.Blank

namespace FlashStation.Pattern

/-- Where a reader of patterns stands. -/
structure Cursor where
  /-- The place. -/
  here : Place
  /-- The characters that are left. -/
  rest : List Char
  /-- Whether blanks mean nothing. -/
  isSpaced : Bool
  /-- The names of the groups so far, and where they stand. -/
  names : List (String × Extent)

namespace Cursor

/-- The cursor in front of a text. -/
def ofText (s : String) : Cursor := ⟨.start, s.toList, false, []⟩

/-- The next character. -/
def next? (c : Cursor) : Option Char := c.rest.head?

/-- The extent of the next character; it is empty at the end. -/
def charExtent (c : Cursor) : Extent :=
  ⟨c.here, (c.next?.map c.here.after).getD c.here⟩

/-- Goes past a character. -/
def step (c : Cursor) : Cursor :=
  match c.rest with
  | [] => c
  | x :: rest => { c with here := c.here.after x, rest := rest }

/-- Goes past so many characters. -/
def steps : Nat → Cursor → Cursor
  | 0, c => c
  | n + 1, c => c.step.steps n

/-- The place and the characters behind blanks and notes; `inNote` says whether the
cursor is within a note. -/
def pastBlanks (inNote : Bool) (p : Place) : List Char → Place × List Char
  | [] => (p, [])
  | x :: rest =>
    if inNote then pastBlanks (x != '\n') (p.after x) rest
    else if Text.isBlank x then pastBlanks false (p.after x) rest
    else if x = '#' then pastBlanks true (p.after x) rest
    else (p, x :: rest)

/-- Goes past blanks and notes, if they mean nothing. -/
def skipBlanks (c : Cursor) : Cursor :=
  if c.isSpaced then
    { c with here := (pastBlanks false c.here c.rest).1, rest := (pastBlanks false c.here c.rest).2 }
  else c

/-- Goes past a character and the blanks behind it. -/
def stepOn (c : Cursor) : Cursor := c.step.skipBlanks

/-- Goes past blanks, and not past notes. -/
def pastSpace (c : Cursor) : Cursor :=
  c.steps (c.rest.takeWhile Text.isBlank).length

theorem pastBlanks_length_le (inNote : Bool) (p : Place) (s : List Char) :
    (pastBlanks inNote p s).2.length ≤ s.length := by
  induction s generalizing inNote p with
  | nil => simp [pastBlanks]
  | cons x rest ih =>
    unfold pastBlanks
    split
    · exact Nat.le_succ_of_le (ih _ _)
    · split
      · exact Nat.le_succ_of_le (ih _ _)
      · split
        · exact Nat.le_succ_of_le (ih _ _)
        · exact Nat.le_refl _

theorem skipBlanks_length_le (c : Cursor) : c.skipBlanks.rest.length ≤ c.rest.length := by
  unfold skipBlanks
  split
  · exact pastBlanks_length_le _ _ _
  · exact Nat.le_refl _

/-- Where a character is left, going on leaves fewer of them. -/
theorem stepOn_length_lt {c : Cursor} (h : c.rest ≠ []) : c.stepOn.rest.length < c.rest.length := by
  refine Nat.lt_of_le_of_lt (skipBlanks_length_le c.step) ?_
  unfold step
  split
  · contradiction
  · simp_all

/-- The characters that satisfy a test, without blanks that mean nothing, and the cursor
behind them. -/
def takeOn (p : Char → Bool) (c : Cursor) : List Char × Cursor :=
  match h : c.rest with
  | [] => ([], c)
  | x :: _ =>
    if p x then
      have : c.stepOn.rest.length < c.rest.length := stepOn_length_lt (by simp [h])
      (x :: (c.stepOn.takeOn p).1, (c.stepOn.takeOn p).2)
    else ([], c)
termination_by c.rest.length

/-- The character that comes behind the next one when blanks between them are skipped.
The character behind the mark of a note counts, too, though it is part of the note. -/
def ahead? (c : Cursor) : Option Char :=
  if c.isSpaced then
    let behind := c.rest.tail
    let shown := behind.dropWhile Text.isBlank
    let left := if shown.head? = some '#' then shown.tail.dropWhile Text.isBlank else shown
    (left.head?).or behind.head?
  else c.rest.tail.head?

end Cursor

/-- A reader of a part of a pattern. -/
abbrev Reader := StateT Cursor (Except Fault)

namespace Reader

/-- The place of the cursor. -/
def here : Reader Place := Cursor.here <$> get

/-- The next character. -/
def next? : Reader (Option Char) := Cursor.next? <$> get

/-- The extent of the next character. -/
def charExtent : Reader Extent := Cursor.charExtent <$> get

/-- Goes past a character. -/
def step : Reader Unit := modify Cursor.step

/-- Goes past a character and the blanks behind it. -/
def stepOn : Reader Unit := modify Cursor.stepOn

/-- The characters that satisfy a test, without blanks that mean nothing. -/
def takeOn (p : Char → Bool) : Reader (List Char) := do
  let c ← get
  set (c.takeOn p).2
  return (c.takeOn p).1

/-- Stops with a fault. -/
def fail (cause : Cause) (extent : Extent) : Reader α :=
  throw ⟨cause, extent, none⟩

/-- Stops with a fault where the cursor is. -/
def failHere (cause : Cause) : Reader α := do
  fail cause (.at (← here))

/-- Stops with a fault of the next character. -/
def failAtChar (cause : Cause) : Reader α := do
  fail cause (← charExtent)

/-- Stops with a fault that begins at a place and ends where the cursor is. -/
def failFrom (cause : Cause) (first : Place) : Reader α := do
  fail cause ⟨first, ← here⟩

/-- Goes past the first of some texts that comes next, and says whether one does. -/
def acceptOneOf (texts : List String) : Reader Bool := do
  let c ← get
  match texts.find? fun s => s.toList.isPrefixOf c.rest with
  | some s =>
    set (c.steps s.length)
    return true
  | none => return false

end Reader

end FlashStation.Pattern

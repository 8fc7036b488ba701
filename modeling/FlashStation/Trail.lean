/-
# The trail

A trail is the ordered record of what happened. Entries are only ever added at
the end and removed all at once; each has an identifier of its own, counted up
from zero and never used again, not even after the trail was cleared.

A loader prints into the trail as well: its output becomes traces, blank
fragments are dropped, and its wish to wipe the screen is noted and not obeyed.

Key definitions: `Trail`, `Trail.append`, `Trail.clear`, `Terminal.lines`.
-/
import FlashStation.Text.Blank

namespace FlashStation

/-- Kinds of trail entries. -/
inductive Variant where
  /-- Something happened. -/
  | info
  /-- Something failed. -/
  | error
  /-- A milestone was reached. -/
  | success
  /-- A detail for diagnosis. -/
  | trace
  deriving DecidableEq, Repr, Inhabited

/-- The word for a kind of entry. -/
def Variant.text : Variant → String
  | .info => "info"
  | .error => "error"
  | .success => "success"
  | .trace => "trace"

/-- An entry of the trail. -/
structure Entry where
  /-- Its identifier. -/
  id : Nat
  /-- Its kind. -/
  variant : Variant
  /-- Its text. -/
  message : String
  deriving DecidableEq, Repr, Inhabited

/-- A trail: its entries, oldest first, and how many were ever added. -/
structure Trail where
  /-- The entries, oldest first. -/
  entries : List Entry
  /-- The identifier of the next entry. -/
  next : Nat
  deriving Repr, Inhabited

namespace Trail

/-- A trail without entries. -/
def empty : Trail := ⟨[], 0⟩

/-- Adds an entry at the end. -/
def append (t : Trail) (variant : Variant) (message : String) : Trail where
  entries := t.entries ++ [⟨t.next, variant, message⟩]
  next := t.next + 1

/-- Removes all entries. -/
def clear (t : Trail) : Trail where
  entries := []
  next := t.next

/-- The number of entries. -/
def size (t : Trail) : Nat :=
  t.entries.length

/-- The number of entries of one kind. -/
def count (t : Trail) (variant : Variant) : Nat :=
  t.entries.countP (·.variant == variant)

end Trail

/-- What a loader can do to its terminal. -/
inductive TerminalCall where
  /-- Print a line. -/
  | writeLine (text : String)
  /-- Print a fragment. -/
  | write (text : String)
  /-- Wipe the screen. -/
  | clean
  deriving DecidableEq, Repr, Inhabited

/-- The traces that a loader's call leaves. -/
def TerminalCall.traces : TerminalCall → List String
  | .writeLine text => [text]
  | .write text =>
    let kept := Text.trimEnd text
    if kept.isEmpty then [] else [kept]
  | .clean => ["[loader called terminal.clean() - ignoring to preserve debug logs]"]

/-- A trail after a loader's call. -/
def Trail.print (t : Trail) (call : TerminalCall) : Trail :=
  call.traces.foldl (fun t line => t.append .trace line) t

end FlashStation

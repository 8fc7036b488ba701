/-
# The two streams of a port

An open port has a stream to read from and a stream to write to. Each of them
is locked while a reader or a writer holds it, and a closed port has neither.

Key definitions: `StreamKind`, `Streams`.
-/
namespace FlashStation

/-- One of the two streams of an open port. -/
inductive StreamKind where
  /-- From the device to the host. -/
  | readable
  /-- From the host to the device. -/
  | writable
  deriving DecidableEq, Repr, Inhabited

/-- The word for a stream in messages. -/
def StreamKind.text : StreamKind → String
  | .readable => "readable"
  | .writable => "writable"

/-- What a port's streams are at a moment: absent, or present and locked or not. -/
structure Streams where
  /-- The stream from the device. -/
  readable : Option Bool
  /-- The stream to the device. -/
  writable : Option Bool
  deriving DecidableEq, Repr, Inhabited

namespace Streams

/-- No stream at all. -/
def closed : Streams := ⟨none, none⟩

/-- Both streams, and nobody holds them. -/
def free : Streams := ⟨some false, some false⟩

/-- Whether there is a stream. -/
def isOpen (s : Streams) : Bool :=
  s.readable.isSome || s.writable.isSome

/-- Whether a reader holds the stream from the device. -/
def readableLocked (s : Streams) : Bool :=
  s.readable == some true

/-- Whether a writer holds the stream to the device. -/
def writableLocked (s : Streams) : Bool :=
  s.writable == some true

/-- Whether somebody holds a given stream. -/
def isLocked (s : Streams) : StreamKind → Bool
  | .readable => s.readableLocked
  | .writable => s.writableLocked

/-- One line on both streams. -/
def text (s : Streams) : String :=
  s!"readable={s.readable.isSome} (locked={s.readableLocked}), " ++
    s!"writable={s.writable.isSome} (locked={s.writableLocked})"

end Streams

end FlashStation

/-
# A shelf

What programs that get bytes work on, when nothing else is going on: a base, a
disk and a server, and the trail and the notes that the programs leave.

Key definitions: `Shelf`, `Shelf.serve`.
-/
import FlashStation.Image.Payload
import FlashStation.Place.Web

namespace FlashStation

/-- A base with a disk, a server and the records. -/
structure Shelf where
  /-- Where paths start. -/
  base : Base
  /-- What makes a request differ from all earlier ones. -/
  stamp : String
  /-- The files. -/
  disk : Disk
  /-- The server. -/
  web : Web
  /-- The trail. -/
  trail : Trail
  /-- The notes for the diagnostic log, oldest first. -/
  notes : List Note
  deriving Repr, Inhabited

/-- Answers the operations that get bytes. -/
def Shelf.serve : (op : SupplyOp) → Shelf → op.Answer × Shelf
  | .locate path, s => (s.base.locate path, s)
  | .fetch path, s =>
    let (bytes, web) := s.base.fetch s.stamp s.disk s.web path
    (bytes, { s with web })
  | .readLocal path, s => (s.disk.readLocal path, s)
  | .log variant message, s =>
    ((), { s with
      trail := s.trail.append variant message
      notes := s.notes ++ [Note.ofEntry variant message] })
  | .note n, s => ((), { s with notes := s.notes ++ [n] })

/-- Runs a program that gets bytes. -/
def Shelf.run (s : Shelf) (p : Program Supply α) : α × Shelf :=
  p.run Shelf.serve s

end FlashStation

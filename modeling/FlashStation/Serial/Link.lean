/-
# Bringing a port back to the closed state

A session that was abandoned can leave a reader or a writer on a port, and then
the port can be neither closed nor opened. Reclaiming makes them let go, the
reader first, closes the port, and records every step. A failure is recorded
and the next step is taken all the same; the first failure is the outcome. A
port that is not open is left alone.

Key definitions: `LinkOp`, `Delays`, `reclaim`.
-/
import FlashStation.Program
import FlashStation.Note
import FlashStation.Serial.Fault
import FlashStation.Serial.Identity

namespace FlashStation

/-- A port that is at hand: the device it leads to, and what is known of it. -/
structure Port where
  /-- The device it leads to. -/
  device : String
  /-- What is known of it. -/
  info : PortInfo
  deriving DecidableEq, Repr, Inhabited

/-- A port's numbers in messages. -/
def Port.describe (p : Port) : String :=
  p.info.describe

/-- What can be done with a port that is at hand, with time and with the records. -/
inductive LinkOp where
  /-- Look at the port's streams. -/
  | streams (port : Port)
  /-- Make the reader stop. -/
  | cancelReader (port : Port)
  /-- Take the lock from the reader. -/
  | releaseReader (port : Port)
  /-- Make the writer finish. -/
  | closeWriter (port : Port)
  /-- Take the lock from the writer. -/
  | releaseWriter (port : Port)
  /-- Close the port. -/
  | close (port : Port)
  /-- Wait for some milliseconds. -/
  | sleep (ms : Nat)
  /-- Add an entry to the trail. -/
  | log (variant : Variant) (message : String)
  /-- Add a note to the diagnostic log. -/
  | note (note : Note)
  deriving DecidableEq, Repr

/-- The answers of the operations on ports. -/
@[reducible] def LinkOp.Answer : LinkOp → Type
  | .streams _ => Streams
  | .cancelReader _ | .releaseReader _ | .closeWriter _ | .releaseWriter _ | .close _ =>
    Except PortFault Unit
  | .sleep _ | .log _ _ | .note _ => Unit

/-- Whether other programs may run while an operation is under way. -/
def LinkOp.suspends : LinkOp → Bool
  | .cancelReader _ | .closeWriter _ | .close _ | .sleep _ => true
  | .streams _ | .releaseReader _ | .releaseWriter _ | .log _ _ | .note _ => false

/-- The operations on a port. -/
@[reducible] def Link : Signature := ⟨LinkOp, LinkOp.Answer⟩

namespace Link

/-- The port's streams at this moment. -/
def streams (port : Port) : Program Link Streams :=
  .perform (S := Link) (.streams port)

/-- Adds an entry to the trail. -/
def log (variant : Variant) (message : String) : Program Link Unit :=
  .perform (S := Link) (.log variant message)

/-- Adds a trace to the trail. -/
def trace (message : String) : Program Link Unit :=
  log .trace message

/-- Waits. -/
def sleep (ms : Nat) : Program Link Unit :=
  .perform (S := Link) (.sleep ms)

/-- Makes the reader stop and takes its lock. -/
def freeReader (port : Port) : Program Link (Except PortFault Unit) := do
  match ← Program.perform (S := Link) (.cancelReader port) with
  | .error fault => pure (.error fault)
  | .ok () => Program.perform (S := Link) (.releaseReader port)

/-- Makes the writer finish and takes its lock. A writer that is finishing
already still has to give up its lock. -/
def freeWriter (port : Port) : Program Link (Except PortFault Unit) := do
  match ← Program.perform (S := Link) (.closeWriter port) with
  | .ok () | .error .writerClosing => Program.perform (S := Link) (.releaseWriter port)
  | .error fault => pure (.error fault)

end Link

/-- How long to wait after a lock was given up and after a port was closed. -/
structure Delays where
  /-- After a lock was given up, in milliseconds. -/
  settle : Nat
  /-- After a port was closed, in milliseconds. -/
  closeSettle : Nat
  deriving DecidableEq, Repr, Inhabited

open Link in
/-- Frees one stream of a port if somebody holds it, and gives the fault if that
fails. -/
def freeStream (delays : Delays) (port : Port) (context : String) (stream : StreamKind)
    (free : Program Link (Except PortFault Unit)) : Program Link (Option ReclaimFault) := do
  if (← streams port).isLocked stream then
    trace s!"{context}: releasing {stream.text} lock…"
    match ← free with
    | .ok () =>
      trace s!"{context}: {stream.text} lock released"
      sleep delays.settle
      pure none
    | .error fault =>
      log .error s!"{context}: failed to release {stream.text} lock: {fault.message}"
      pure (some (.lockRelease stream fault))
  else pure none

open Link in
/-- Closes a port if it is open, and gives the fault if that fails. -/
def closePort (delays : Delays) (port : Port) (context : String) :
    Program Link (Option ReclaimFault) := do
  if (← streams port).isOpen then
    match ← Program.perform (S := Link) (.close port) with
    | .ok () =>
      trace s!"{context}: port closed successfully"
      sleep delays.closeSettle
      pure none
    | .error fault =>
      log .error s!"{context}: close failed - {fault.message}"
      pure (some (.close fault))
  else pure none

open Link in
/-- Brings a port back to the closed state. `context` is the reason, for the
records. -/
def reclaim (delays : Delays) (port : Port) (context : String) :
    Program Link (Except ReclaimFault Unit) := do
  if !(← streams port).isOpen then
    trace s!"{context}: port not open, skipping close"
    pure (.ok ())
  else
    trace s!"{context}: closing serial session for {port.describe}…"
    let before ← streams port
    trace s!"{context} - before lock release state: {before.text}"
    let reader ← freeStream delays port context .readable (freeReader port)
    let writer ← freeStream delays port context .writable (freeWriter port)
    let after ← streams port
    trace s!"{context} - after lock release state: {after.text}"
    let closing ← closePort delays port context
    let last ← streams port
    Program.perform (S := Link) (.note ⟨.debug, .reclaim,
      s!"Reclaim of {port.describe} finished: {last.text}"⟩)
    match reader.or (writer.or closing) with
    | none => pure (.ok ())
    | some fault => pure (.error fault)

end FlashStation

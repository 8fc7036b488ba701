/-
# Ports of the machine

A port of the machine is opened, used and closed through the system, which may
refuse anything. All handles of a device share one state: the open port, its
baud rate and a lock for each stream. Readers and writers are leases on clones of
the open port; a lease that was revoked stays an object, but can no longer do
anything.

Each call here takes the shared state and gives it back, and asks the system for
what it needs.

Key definitions: `SystemOp`, `Cell`, `Cell.openAt`, `Cell.close`, `Cell.lease`,
`Cell.cancelReader`, `Cell.closeWriter`, `Cell.serveLink`, `Cell.reclaimed`,
`Lease`.
-/
import FlashStation.Serial.Lease
import FlashStation.Serial.Link

namespace FlashStation

/-- Why reading or writing failed. -/
inductive IoFault where
  /-- The lease no longer holds the stream. -/
  | revoked (stream : StreamKind)
  /-- Nothing came in time. -/
  | timedOut
  /-- Anything else that the system says. -/
  | failed (message : String)
  deriving DecidableEq, Repr, Inhabited

/-- The text of a fault of reading or writing. -/
def IoFault.message : IoFault → String
  | .revoked s => s!"{s.text} lock was revoked"
  | .timedOut => "Operation timed out"
  | .failed m => m

/-- What the system can be asked; an open port is known by a number. -/
inductive SystemOp where
  /-- Open a device. -/
  | openDevice (name : String) (baud : UInt32) (timeout : Nat)
  /-- Change an open port's baud rate. -/
  | setBaud (handle : Nat) (baud : UInt32)
  /-- Make another handle of an open port. -/
  | clone (handle : Nat)
  /-- Wait until everything is sent. -/
  | flush (handle : Nat)
  /-- Read some bytes. -/
  | read (handle : Nat) (count : Nat)
  /-- Write some bytes. -/
  | write (handle : Nat) (bytes : List UInt8)
  /-- Give a handle back. -/
  | drop (handle : Nat)
  /-- Wait for some milliseconds. -/
  | sleep (ms : Nat)
  /-- Add an entry to the trail. -/
  | log (variant : Variant) (message : String)
  /-- Add a note to the diagnostic log. -/
  | note (note : Note)
  deriving DecidableEq, Repr

/-- The system's answers. -/
@[reducible] def SystemOp.Answer : SystemOp → Type
  | .openDevice _ _ _ | .clone _ => Except String Nat
  | .setBaud _ _ | .flush _ => Except String Unit
  | .read _ _ => Except IoFault (List UInt8)
  | .write _ _ => Except IoFault Nat
  | .drop _ | .sleep _ | .log _ _ | .note _ => Unit

/-- The system. -/
@[reducible] def System : Signature := ⟨SystemOp, SystemOp.Answer⟩

namespace System

/-- Asks the system. -/
def ask (op : SystemOp) : Program System op.Answer :=
  Program.perform (S := System) op

/-- Adds a note of this module to the diagnostic log. -/
def note (level : Level) (message : String) : Program System Unit :=
  ask (.note ⟨level, .nativePort, message⟩)

end System

/-- The state that all handles of a device share. -/
structure Cell where
  /-- The open port. -/
  handle : Option Nat
  /-- The baud rate it was last opened at or switched to. -/
  baud : UInt32
  /-- The lock of the stream from the device. -/
  reader : StreamLock
  /-- The lock of the stream to the device. -/
  writer : StreamLock
  deriving DecidableEq, Repr, Inhabited

/-- A reader or a writer: which stream it is for, its handle and its lease. -/
structure Lease where
  /-- The stream. -/
  stream : StreamKind
  /-- Its own handle of the open port. -/
  handle : Nat
  /-- The number under which it holds the lock. -/
  number : UInt64
  deriving DecidableEq, Repr, Inhabited

namespace Cell

/-- The state of a device that was never opened. -/
def new : Cell := ⟨none, 0, .new, .new⟩

/-- The lock of a stream. -/
def lock (c : Cell) : StreamKind → StreamLock
  | .readable => c.reader
  | .writable => c.writer

/-- The state with the lock of a stream replaced. -/
def setLock (c : Cell) (stream : StreamKind) (l : StreamLock) : Cell :=
  match stream with
  | .readable => { c with reader := l }
  | .writable => { c with writer := l }

/-- The streams as they are seen. -/
def streams (c : Cell) : Streams :=
  match c.handle with
  | none => .closed
  | some _ => ⟨some c.reader.isLocked, some c.writer.isLocked⟩

/-- Opens the port. -/
def openAt (name : String) (timeout : Nat) (baud : UInt32) (c : Cell) :
    Program System (Except PortFault Unit × Cell) := do
  match c.handle with
  | some _ => pure (.error .alreadyOpen, c)
  | none =>
    System.note .debug s!"Opening {name} at {Text.decimal baud.toNat} baud"
    match ← System.ask (.openDevice name baud timeout) with
    | .error message => pure (.error (.serial message), c)
    | .ok handle => pure (.ok (), { c with handle := some handle, baud })

/-- Switches an open port to another baud rate. -/
def setBaud (baud : UInt32) (c : Cell) : Program System (Except PortFault Unit × Cell) := do
  match c.handle with
  | none => pure (.error .notOpen, c)
  | some handle =>
    match ← System.ask (.setBaud handle baud) with
    | .error message => pure (.error (.serial message), c)
    | .ok () => pure (.ok (), { c with baud })

/-- Takes the lock of a stream and makes a reader or a writer. -/
def lease (stream : StreamKind) (c : Cell) : Program System (Except PortFault Lease × Cell) := do
  match c.handle with
  | none => pure (.error (.noStream stream), c)
  | some handle =>
    match (c.lock stream).acquire with
    | (none, l) => pure (.error (.locked stream), c.setLock stream l)
    | (some number, l) =>
      match ← System.ask (.clone handle) with
      | .error message => pure (.error (.serial message), c.setLock stream (l.giveBack number))
      | .ok own => pure (.ok ⟨stream, own, number⟩, c.setLock stream l)

/-- Revokes the reader's lease; its lock stays until it is released. -/
def cancelReader (name : String) (c : Cell) : Program System (Except PortFault Unit × Cell) := do
  match c.handle with
  | none => pure (.error (.noStream .readable), c)
  | some _ =>
    System.note .trace s!"Revoking reader lease on {name}"
    pure (.ok (), { c with reader := c.reader.revoke })

/-- Frees the lock of the stream from the device. -/
def releaseReader (c : Cell) : Except PortFault Unit × Cell :=
  (.ok (), { c with reader := c.reader.release })

/-- Revokes the writer's lease and waits until everything is sent; its lock
stays until it is released. -/
def closeWriter (name : String) (c : Cell) : Program System (Except PortFault Unit × Cell) := do
  match c.handle with
  | none => pure (.error (.noStream .writable), c)
  | some handle =>
    if c.writer.isRevoked then pure (.error .writerClosing, c)
    else
      System.note .trace s!"Revoking writer lease on {name}"
      let c := { c with writer := c.writer.revoke }
      match ← System.ask (.flush handle) with
      | .error message => pure (.error (.io message), c)
      | .ok () => pure (.ok (), c)

/-- Frees the lock of the stream to the device. -/
def releaseWriter (c : Cell) : Except PortFault Unit × Cell :=
  (.ok (), { c with writer := c.writer.release })

/-- Closes the port, unless a stream is locked. -/
def close (name : String) (c : Cell) : Program System (Except PortFault Unit × Cell) := do
  match c.handle with
  | none => pure (.error .notOpen, c)
  | some handle =>
    if c.reader.isLocked then pure (.error (.locked .readable), c)
    else if c.writer.isLocked then pure (.error (.locked .writable), c)
    else
      System.ask (.drop handle)
      System.note .debug s!"Closed {name}"
      pure (.ok (), { c with handle := none })

/-- Answers the operations on a port from its shared state. -/
def serveLink : (op : LinkOp) → Cell → Program System (op.Answer × Cell)
  | .streams _, c => pure (c.streams, c)
  | .cancelReader port, c => c.cancelReader port.info.name
  | .releaseReader _, c => pure c.releaseReader
  | .closeWriter port, c => c.closeWriter port.info.name
  | .releaseWriter _, c => pure c.releaseWriter
  | .close port, c => c.close port.info.name
  | .sleep ms, c => do
    System.ask (.sleep ms)
    pure ((), c)
  | .log variant message, c => do
    System.ask (.log variant message)
    pure ((), c)
  | .note n, c => do
    System.ask (.note n)
    pure ((), c)

/-- Brings the port back to the closed state. -/
def reclaimed (delays : Delays) (info : PortInfo) (context : String) (c : Cell) :
    Program System (Except ReclaimFault Unit × Cell) :=
  (reclaim delays ⟨info.name, info⟩ context).weave serveLink c

end Cell

namespace Lease

/-- Whether a lease may use its stream. -/
def isLive (l : Lease) (c : Cell) : Bool :=
  (c.lock l.stream).isHeldBy l.number

/-- Reads through a lease. -/
def read (l : Lease) (count : Nat) (c : Cell) : Program System (Except IoFault (List UInt8)) := do
  if l.isLive c then System.ask (.read l.handle count) else pure (.error (.revoked l.stream))

/-- Writes through a lease. -/
def write (l : Lease) (bytes : List UInt8) (c : Cell) : Program System (Except IoFault Nat) := do
  if l.isLive c then System.ask (.write l.handle bytes) else pure (.error (.revoked l.stream))

/-- Waits until everything that was written through a lease is sent. -/
def flush (l : Lease) (c : Cell) : Program System (Except IoFault Unit) := do
  if l.isLive c then
    match ← System.ask (.flush l.handle) with
    | .ok () => pure (.ok ())
    | .error message => pure (.error (.failed message))
  else pure (.error (.revoked l.stream))

/-- Gives a lease back. -/
def giveBack (l : Lease) (c : Cell) : Program System Cell := do
  System.ask (.drop l.handle)
  pure (c.setLock l.stream ((c.lock l.stream).giveBack l.number))

end Lease

end FlashStation

/-
# Faults of ports

What can go wrong at a port, when a port is asked for, and when a port is
brought back to the closed state.

Key definitions: `PortFault`, `SelectFault`, `ReclaimFault`.
-/
import FlashStation.Serial.Stream

namespace FlashStation

/-- What can go wrong at a port. -/
inductive PortFault where
  /-- Reading or writing failed, as the system says. -/
  | io (message : String)
  /-- The serial device failed, as the system says. -/
  | serial (message : String)
  /-- Somebody holds the stream. -/
  | locked (stream : StreamKind)
  /-- There is no such stream; the port is closed. -/
  | noStream (stream : StreamKind)
  /-- The writer is closing already. -/
  | writerClosing
  /-- The port is open. -/
  | alreadyOpen
  /-- The port is closed. -/
  | notOpen
  /-- The transport cannot do this. -/
  | unsupported (what : String)
  deriving DecidableEq, Repr, Inhabited

/-- The text of a port's fault. -/
def PortFault.message : PortFault → String
  | .io m => s!"I/O error: {m}"
  | .serial m => s!"Serial port error: {m}"
  | .locked s => s!"{s.text} stream is locked"
  | .noStream s => s!"{s.text} stream is not available"
  | .writerClosing => "writer is already closing"
  | .alreadyOpen => "port is already open"
  | .notOpen => "port is not open"
  | .unsupported what => s!"Unsupported: {what}"

/-- The texts of what caused a port's fault, from the nearest cause on. -/
def PortFault.causes : PortFault → List String
  | .io m => [m]
  | .serial m => [m]
  | _ => []

/-- What can go wrong when a port is asked for. -/
inductive SelectFault where
  /-- Nothing was chosen. -/
  | cancelled
  /-- No device passes the filters. -/
  | noCompatibleDevice
  /-- The ports could not be listed. -/
  | port (fault : PortFault)
  deriving DecidableEq, Repr, Inhabited

/-- The text of a fault of selection. -/
def SelectFault.message : SelectFault → String
  | .cancelled => "No port selected by the user."
  | .noCompatibleDevice => "No compatible devices found."
  | .port f => f.message

/-- The causes of a fault of selection; a port's fault stands for itself. -/
def SelectFault.causes : SelectFault → List String
  | .port f => f.causes
  | _ => []

/-- What can go wrong when a port is brought back to the closed state. -/
inductive ReclaimFault where
  /-- A stream's lock was not given up. -/
  | lockRelease (stream : StreamKind) (fault : PortFault)
  /-- The port did not close. -/
  | close (fault : PortFault)
  deriving DecidableEq, Repr, Inhabited

/-- The text of a fault of reclaiming. -/
def ReclaimFault.message : ReclaimFault → String
  | .lockRelease s f => s!"failed to release {s.text} lock: {f.message}"
  | .close f => s!"close failed: {f.message}"

/-- The causes of a fault of reclaiming: the port's fault and its own causes. -/
def ReclaimFault.causes : ReclaimFault → List String
  | .lockRelease _ f => f.message :: f.causes
  | .close f => f.message :: f.causes

end FlashStation

/-
# The station's record and what it works with

The station keeps one record: its phase, a generation that is counted up by
every connect and every disconnect, the session if there is one, what is known
of the board, the progress of the last flash and the last fault. Whoever has
started something remembers the generation; when the record has another one, it
was superseded and must leave the record alone.

The record is read and written at once, and nothing comes between; other
programs run only while an operation that suspends is under way.

Key definitions: `Loader`, `Session`, `Desk`, `StationOp`, `StationOp.suspends`,
`setPhase`.
-/
import FlashStation.Image.Payload
import FlashStation.Serial.Link
import FlashStation.Station.Fault

namespace FlashStation

/-- A talk with the boot loader over a port. -/
structure Loader where
  /-- A number that no other loader has. -/
  ticket : Nat
  /-- The port. -/
  port : Port
  /-- The baud rate for flashing. -/
  baud : UInt32
  /-- The baud rate at which the boot loader answers first. -/
  romBaud : UInt32
  deriving DecidableEq, Repr, Inhabited

/-- A loader that has shaken hands, with the generation it belongs to. -/
structure Session where
  /-- The loader. -/
  loader : Loader
  /-- The generation of the connect that made it. -/
  generation : Nat
  /-- The baud rate for flashing. -/
  baud : UInt32
  deriving DecidableEq, Repr, Inhabited

/-- The station's record. -/
structure Desk where
  /-- What the station is doing. -/
  phase : Phase
  /-- The number of connects and disconnects so far. -/
  generation : Nat
  /-- The session, unless a flash has taken it. -/
  session : Option Session
  /-- What is known of the board. -/
  info : Option DeviceInfo
  /-- The progress of the last flash in percent. -/
  progress : Nat
  /-- The text of the last fault. -/
  lastError : Option String
  deriving DecidableEq, Repr, Inhabited

/-- The record of a new station. -/
def Desk.new : Desk :=
  ⟨.idle, 0, none, none, 0, none⟩

/-- Whether there is a session, free or in use. -/
def Desk.isConnected (d : Desk) : Bool :=
  d.phase == .connected || d.phase == .flashing

/-- The baud rate of the session that is free. -/
def Desk.baud (d : Desk) : Option UInt32 :=
  d.session.map (·.baud)

/-- What the station's programs can do. -/
inductive StationOp where
  /-- Something with a port, with time or with the records. -/
  | link (op : LinkOp)
  /-- Get bytes. -/
  | supply (op : SupplyOp)
  /-- Read the record. -/
  | read
  /-- Look whether a generation is the record's. -/
  | current (generation : Nat)
  /-- Write the record. -/
  | write (desk : Desk)
  /-- Tell the observer that the phase has changed. -/
  | changed (before after : Phase)
  /-- Tell the caller of a flash how far it is, in percent. -/
  | progress (percent : Nat)
  /-- Ask whether there are serial ports on this platform at all. -/
  | supported
  /-- List the ports that were granted before. -/
  | knownPorts
  /-- Ask for a port that passes some filters. -/
  | requestPort (filters : List UsbFilter)
  /-- Make a loader for a port. -/
  | attach (port : Port) (baud romBaud : UInt32)
  /-- Take a loader apart, which gives its port back. -/
  | intoPort (loader : Loader)
  /-- Shake hands with the boot loader. -/
  | handshake (loader : Loader)
  /-- Load the flasher into the board's memory. -/
  | runStub (loader : Loader)
  /-- The chip's name, as the handshake told it. -/
  | chipName (loader : Loader)
  /-- Ask for the flash chip's identifier. -/
  | flashId (loader : Loader)
  /-- Ask for the flash chip's size in bytes. -/
  | flashSize (loader : Loader)
  /-- Write a payload. While this is under way, progress is reported for the
  flash of the given generation. -/
  | writeFlash (loader : Loader) (payload : Payload) (compress : Bool) (generation : Nat)
  /-- Whether the loader can reset the board through the control lines. -/
  | hasHardReset (loader : Loader)
  /-- Reset the board through the control lines. -/
  | hardReset (loader : Loader)
  /-- Ask the boot loader to start the application. -/
  | softReset (loader : Loader)
  deriving DecidableEq, Repr

/-- The answers of the station's operations. -/
@[reducible] def StationOp.Answer : StationOp → Type
  | .link op => op.Answer
  | .supply op => op.Answer
  | .read => Desk
  | .current _ => Bool
  | .write _ | .changed _ _ | .progress _ => Unit
  | .supported => Bool
  | .knownPorts => Except PortFault (List Port)
  | .requestPort _ => Except SelectFault Port
  | .attach _ _ _ => Loader
  | .intoPort _ => Port
  | .handshake _ | .runStub _ | .hardReset _ | .softReset _ => Except ProtocolFault Unit
  | .chipName _ => Option String
  | .flashId _ => Except ProtocolFault UInt32
  | .flashSize _ => Except ProtocolFault Nat
  | .writeFlash _ _ _ _ => Except ProtocolFault Unit
  | .hasHardReset _ => Bool

/-- Whether other programs may run while an operation is under way. -/
def StationOp.suspends : StationOp → Bool
  | .link op => op.suspends
  | .supply op => op.suspends
  | .knownPorts | .requestPort _ | .handshake _ | .runStub _ | .flashId _ | .flashSize _
  | .writeFlash _ _ _ _ | .hardReset _ | .softReset _ => true
  | .read | .current _ | .write _ | .changed _ _ | .progress _ | .supported | .attach _ _ _
  | .intoPort _ | .chipName _ | .hasHardReset _ => false

/-- The station's operations. -/
@[reducible] def Station : Signature := ⟨StationOp, StationOp.Answer⟩

namespace Station

/-- Performs one of the station's operations. -/
def perform (op : StationOp) : Program Station op.Answer :=
  Program.perform (S := Station) op

/-- A program on ports, as one of the station's. -/
def onLink (p : Program Link α) : Program Station α :=
  p.embed fun op => perform (.link op)

/-- A program that gets bytes, as one of the station's. -/
def onSupply (p : Program Supply α) : Program Station α :=
  p.embed fun op => perform (.supply op)

/-- Adds an entry to the trail. -/
def log (variant : Variant) (message : String) : Program Station Unit :=
  perform (.link (.log variant message))

/-- Adds a trace to the trail. -/
def trace (message : String) : Program Station Unit :=
  log .trace message

/-- The record at this moment. -/
def read : Program Station Desk :=
  perform .read

/-- Replaces the record. -/
def write (desk : Desk) : Program Station Unit :=
  perform (.write desk)

/-- Changes the record. -/
def update (f : Desk → Desk) : Program Station Unit := do
  write (f (← read))

/-- Remembers a fault's text. -/
def setLastError (message : String) : Program Station Unit :=
  update fun d => { d with lastError := some message }

/-- Changes the phase, and tells the observer if it is another one. -/
def setPhase (next : Phase) : Program Station Unit := do
  let desk ← read
  if desk.phase ≠ next then
    write { desk with phase := next }
    perform (.changed desk.phase next)

/-- Whether a generation is the record's. -/
def isCurrent (generation : Nat) : Program Station Bool :=
  perform (.current generation)

/-- Brings a port back to the closed state, and records the complaint if that fails. -/
def restorePort (config : Config) (port : Port) (context : String) (variant : Variant)
    (complaint : String → String) : Program Station Unit := do
  match ← onLink (reclaim ⟨config.settle, config.closeSettle⟩ port context) with
  | .ok () => pure ()
  | .error fault => log variant (complaint fault.message)

/-- Takes a loader apart and gives its port back in the closed state. Never fails. -/
def release (config : Config) (loader : Loader) (context : String) : Program Station Unit := do
  let port ← perform (.intoPort loader)
  restorePort config port context .trace fun message =>
    s!"Warning: failed to release {context} transport: {message}"

end Station

end FlashStation

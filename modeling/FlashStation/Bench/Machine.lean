/-
# A made-up machine

A machine has a disk, with serial ports among its files, and keeps track of the
handles that are open. A serial port can be opened while no handle of it is open;
through it bytes go both ways as they are. It is barred by the handle that opened
it, and locked as long as any handle of it is open; the bar goes with the first
handle that is given back.

With the shared states of the devices, the trail and the notes, a machine is what
programs on ports run on.

Key definitions: `Machine`, `Machine.openDevice`, `Machine.serve`, `Rig`,
`Rig.serveSystem`.
-/
import FlashStation.Place.Disk
import FlashStation.Serial.Provider

namespace FlashStation.Bench

/-- A serial port. -/
structure Device where
  /-- The names that lead to it. -/
  place : List String
  /-- What the device has sent and nobody has read. -/
  toHost : List UInt8
  /-- What was written to the device and it has not taken. -/
  toDevice : List UInt8
  /-- Whether the system refuses to open it once more. -/
  isBarred : Bool
  deriving DecidableEq, Repr, Inhabited

/-- What a machine has at the place of a device. -/
inductive Socket where
  /-- A serial port. -/
  | serial
  /-- A file that is none. -/
  | file
  deriving DecidableEq, Repr, Inhabited

/-- A machine. -/
structure Machine where
  /-- The files, those of the devices included. -/
  disk : Disk
  /-- The serial ports. -/
  devices : List Device
  /-- The open handles, each with the place of its device. -/
  handles : List (Nat × List String)
  /-- The number of the next handle. -/
  next : Nat
  deriving Repr, Inhabited

namespace Machine

/-- A machine with some files and without a device. -/
def new (disk : Disk) : Machine :=
  ⟨disk, [], [], 0⟩

/-- The machine with a device, unless there is something at its place. -/
def attach (m : Machine) (name : String) (socket : Socket) : Machine :=
  let place := Disk.names name
  if (m.disk.nodes.find? (·.1 == place)).isSome then m
  else
    let m := { m with disk := m.disk.addFile place [] }
    match socket with
    | .serial => { m with devices := m.devices ++ [⟨place, [], [], false⟩] }
    | .file => m

/-- The device at a place. -/
def deviceAt (m : Machine) (place : List String) : Option Device :=
  m.devices.find? (·.place == place)

/-- The device that a handle leads to. -/
def deviceOf (m : Machine) (handle : Nat) : Option Device := do
  let (_, place) ← m.handles.find? (·.1 == handle)
  m.deviceAt place

/-- The machine with a device replaced. -/
def setDevice (m : Machine) (d : Device) : Machine :=
  { m with devices := m.devices.map fun x => if x.place == d.place then d else x }

/-- A new handle of a device. -/
def addHandle (m : Machine) (place : List String) : Nat × Machine :=
  (m.next, { m with handles := m.handles ++ [(m.next, place)], next := m.next + 1 })

/-- The machine without a handle. Its device is no longer barred. -/
def dropHandle (m : Machine) (handle : Nat) : Machine :=
  let m :=
    match m.deviceOf handle with
    | none => m
    | some d => m.setDevice { d with isBarred := false }
  { m with handles := m.handles.filter (·.1 != handle) }

/-- The serial port that a path leads to. -/
def serialPort (m : Machine) (path : String) : Except String Device :=
  match m.disk.file path with
  | .error fault => .error fault.text
  | .ok (.inside place, _) =>
    match m.deviceAt place with
    | some d => .ok d
    | none => .error "Not a typewriter"
  | .ok _ => .error "Not a typewriter"

/-- Opens a device. -/
def openDevice (m : Machine) (path : String) : Except String Nat × Machine :=
  match m.serialPort path with
  | .error message => (.error message, m)
  | .ok d =>
    if d.isBarred then (.error "Device or resource busy", m)
    else if m.handles.any (·.2 == d.place) then
      (.error "Unable to acquire exclusive lock on serial port", m)
    else
      let (handle, m) := m.addHandle d.place
      (.ok handle, m.setDevice { d with isBarred := true })

/-- Answers what the system is asked; time and the records are none of the
machine's business. -/
def serve (m : Machine) : (op : SystemOp) → op.Answer × Machine
  | .openDevice name _ _ => m.openDevice name
  | .setBaud _ _ => (.ok (), m)
  | .clone handle =>
    match m.handles.find? (·.1 == handle) with
    | none => (.error "Bad file descriptor", m)
    | some (_, place) =>
      let (own, m) := m.addHandle place
      (.ok own, m)
  | .flush _ => (.ok (), m)
  | .read handle count =>
    match m.deviceOf handle with
    | none => (.error .timedOut, m)
    | some d =>
      if d.toHost.isEmpty then (.error .timedOut, m)
      else (.ok (d.toHost.take count), m.setDevice { d with toHost := d.toHost.drop count })
  | .write handle bytes =>
    match m.deviceOf handle with
    | none => (.error (.failed "Bad file descriptor"), m)
    | some d => (.ok bytes.length, m.setDevice { d with toDevice := d.toDevice ++ bytes })
  | .drop handle => ((), m.dropHandle handle)
  | .sleep _ => ((), m)
  | .log _ _ => ((), m)
  | .note _ => ((), m)

/-- The machine after a device has sent some bytes. -/
def feed (m : Machine) (name : String) (bytes : List UInt8) : Machine :=
  match m.deviceAt (Disk.names name) with
  | none => m
  | some d => m.setDevice { d with toHost := d.toHost ++ bytes }

/-- What was written to a device, which takes all of it. -/
def drain (m : Machine) (name : String) : List UInt8 × Machine :=
  match m.deviceAt (Disk.names name) with
  | none => ([], m)
  | some d => (d.toDevice, m.setDevice { d with toDevice := [] })

end Machine

/-- A machine with the shared states of its devices and the records. -/
structure Rig where
  /-- The machine. -/
  machine : Machine
  /-- The shared states and what was granted. -/
  dock : Dock
  /-- The trail. -/
  trail : Trail
  /-- The notes for the diagnostic log, oldest first. -/
  notes : List Note
  deriving Repr, Inhabited

namespace Rig

/-- Answers what the system is asked. -/
def serveSystem (op : SystemOp) (r : Rig) : op.Answer × Rig :=
  let (answer, machine) := r.machine.serve op
  let r := { r with machine }
  (answer,
    match op with
    | .log variant message =>
      { r with
        trail := r.trail.append variant message
        notes := r.notes ++ [Note.ofEntry variant message] }
    | .note n => { r with notes := r.notes ++ [n] }
    | _ => r)

/-- Runs a call on the shared state of a handle. -/
def onCell (r : Rig) (p : NativePort) (call : Cell → Program System (α × Cell)) : α × Rig :=
  let ((a, c), r) := (call (r.dock.cell p.cell)).run serveSystem r
  (a, { r with dock := r.dock.setCell p.cell c })

/-- Brings the port of a handle back to the closed state. -/
def reclaimPort (r : Rig) (p : NativePort) (delays : Delays) (context : String) :
    Except ReclaimFault Unit × Rig :=
  r.onCell p (Cell.reclaimed delays p.info context)

/-- Opens the port of a handle. -/
def openPort (r : Rig) (p : NativePort) (baud : UInt32) : Except PortFault Unit × Rig :=
  r.onCell p (Cell.openAt p.info.name p.timeout baud)

end Rig

end FlashStation.Bench

/-
# Exercises on a machine's ports

An exercise asks for ports of a made-up machine, opens and closes them, takes
readers and writers and gives them back, and moves bytes. Handles, readers and
writers have names; what is stored under a used name takes the place of the old
one, which is given back. A device's open port is given back with the last handle
of it, unless it was granted and so is remembered.

Key definitions: `Exercise`, `Bay`, `Bay.perform`.
-/
import FlashStation.Bench.Machine

namespace FlashStation.Bench

/-- A step of an exercise. -/
inductive Exercise where
  /-- Replace the ports that are found, `none` if they cannot be listed, and attach
  devices. -/
  | plug (ports : Option (List DetectedPort)) (devices : List (String × Socket))
  /-- List the ports that are found. -/
  | detect
  /-- Ask for a port. -/
  | request (filters : List UsbFilter) (as_ : String)
  /-- Take handles of all ports that were granted. -/
  | known (as_ : String)
  /-- Make a handle that shares nothing. -/
  | fresh (info : PortInfo) (as_ : String)
  /-- Open a port. -/
  | openAt (port : String) (baud : UInt32)
  /-- Close a port. -/
  | close (port : String)
  /-- Switch a port's baud rate. -/
  | setBaud (port : String) (baud : UInt32)
  /-- Revoke a port's reader. -/
  | cancelReader (port : String)
  /-- Free the lock of the stream from the device. -/
  | releaseReader (port : String)
  /-- Revoke a port's writer. -/
  | closeWriter (port : String)
  /-- Free the lock of the stream to the device. -/
  | releaseWriter (port : String)
  /-- Take a reader or a writer. -/
  | lease (stream : StreamKind) (port : String) (as_ : String)
  /-- Show a handle. -/
  | describe (port : String)
  /-- Bring a port back to the closed state. -/
  | reclaim (port : String)
  /-- Read through a reader. -/
  | read (lease : String) (count : Nat)
  /-- Write through a writer. -/
  | write (lease : String) (bytes : List UInt8)
  /-- Wait until everything written through a writer is sent. -/
  | flush (lease : String)
  /-- Give back whatever has a name. -/
  | drop (what : String)
  /-- Let a device send bytes. -/
  | feed (device : String) (bytes : List UInt8)
  /-- Let a device take what was written to it. -/
  | drain (device : String)

/-- What came of a step of an exercise. -/
inductive Result where
  /-- Nothing to tell. -/
  | nothing
  /-- It worked. -/
  | ok
  /-- There is no handle, reader or writer of that name. -/
  | unknown
  /-- A port's fault. -/
  | port (fault : PortFault)
  /-- A fault of reading or writing. -/
  | io (fault : IoFault)
  /-- A fault of selection. -/
  | select (fault : SelectFault)
  /-- The ports that were found. -/
  | detected (ports : List DetectedPort)
  /-- A port that was granted. -/
  | granted (info : PortInfo)
  /-- The names of ports. -/
  | names (list : List String)
  /-- A word for a handle. -/
  | word (text : String)
  /-- A port brought back to the closed state, and the trail of that. -/
  | reclaimed (result : Except ReclaimFault Unit) (entries : List Entry)
  /-- Bytes that were read. -/
  | bytes (list : List UInt8)
  /-- Bytes that a device took. -/
  | taken (list : List UInt8)
  /-- A number of bytes written. -/
  | count (n : Nat)
  /-- Whether there was something of that name. -/
  | existed (b : Bool)

/-- What exercises work on. -/
structure Bay where
  /-- The machine. -/
  rig : Rig
  /-- How ports are selected. -/
  selection : Selection
  /-- The ports that are found; none if they cannot be listed. -/
  found : List DetectedPort
  /-- The handles by name. -/
  ports : List (String × NativePort)
  /-- The readers by name, each with the place of its device's state. -/
  readers : List (String × Nat × Lease)
  /-- The writers by name, each with the place of its device's state. -/
  writers : List (String × Nat × Lease)

namespace Bay

/-- Gives the open port of a device back if no handle leads to it any more. -/
def tidy (b : Bay) (place : Nat) : Bay :=
  if b.ports.any (·.2.cell == place) || b.rig.dock.granted.any (·.cell == place) then b
  else
    match (b.rig.dock.cell place).handle with
    | none => b
    | some handle =>
      let (_, rig) := Rig.serveSystem (.drop handle) b.rig
      let c := { rig.dock.cell place with handle := none }
      { b with rig := { rig with dock := rig.dock.setCell place c } }

/-- Stores a handle under a name, and gives back the one that was there. -/
def store (b : Bay) (name : String) (p : NativePort) : Bay :=
  let old := b.ports.find? (·.1 == name)
  let b := { b with ports := (name, p) :: b.ports.filter (·.1 != name) }
  match old with
  | none => b
  | some (_, q) => b.tidy q.cell

/-- Gives a reader or a writer back. -/
def giveBack (b : Bay) (place : Nat) (l : Lease) : Bay :=
  let (c, rig) := (l.giveBack (b.rig.dock.cell place)).run Rig.serveSystem b.rig
  { b with rig := { rig with dock := rig.dock.setCell place c } }

/-- Stores a reader or a writer under a name, and gives back the one that was there. -/
def storeLease (b : Bay) (name : String) (place : Nat) (l : Lease) : Bay :=
  match l.stream with
  | .readable =>
    let old := b.readers.find? (·.1 == name)
    let b := { b with readers := (name, place, l) :: b.readers.filter (·.1 != name) }
    match old with
    | none => b
    | some (_, place, l) => b.giveBack place l
  | .writable =>
    let old := b.writers.find? (·.1 == name)
    let b := { b with writers := (name, place, l) :: b.writers.filter (·.1 != name) }
    match old with
    | none => b
    | some (_, place, l) => b.giveBack place l

/-- Gives back whatever has a name. -/
def dropAll (b : Bay) (name : String) : Bool × Bay :=
  let reader := b.readers.find? (·.1 == name)
  let writer := b.writers.find? (·.1 == name)
  let port := b.ports.find? (·.1 == name)
  let b := { b with
    readers := b.readers.filter (·.1 != name)
    writers := b.writers.filter (·.1 != name)
    ports := b.ports.filter (·.1 != name) }
  let b := (reader.map fun r => b.giveBack r.2.1 r.2.2).getD b
  let b := (writer.map fun r => b.giveBack r.2.1 r.2.2).getD b
  let b := (port.map fun p => b.tidy p.2.cell).getD b
  (reader.isSome || writer.isSome || port.isSome, b)

/-- Runs a call on the shared state of a named handle. -/
def onPort (b : Bay) (name : String)
    (call : NativePort → Cell → Program System (Except PortFault Unit × Cell)) : Result × Bay :=
  match b.ports.find? (·.1 == name) with
  | none => (.unknown, b)
  | some (_, p) =>
    let (result, rig) := b.rig.onCell p (call p)
    (match result with
      | .ok () => .ok
      | .error fault => .port fault, { b with rig })

/-- Runs a call through a reader or a writer. -/
def onLease (b : Bay) (lease : Option (String × Nat × Lease))
    (call : Lease → Cell → Program System (Except IoFault α)) (done : α → Result) : Result × Bay :=
  match lease with
  | none => (.unknown, b)
  | some (_, place, l) =>
    let (result, rig) := (call l (b.rig.dock.cell place)).run Rig.serveSystem b.rig
    (match result with
      | .ok a => done a
      | .error fault => .io fault, { b with rig })

/-- Performs a step of an exercise. -/
def perform : Exercise → Bay → Result × Bay
  | .plug ports devices, b =>
    let machine := devices.foldl (fun m d => m.attach d.1 d.2) b.rig.machine
    (.nothing, { b with found := ports.getD [], rig := { b.rig with machine } })
  | .detect, b => (.detected b.found, b)
  | .request filters name, b =>
    let (result, dock) := b.rig.dock.request b.selection filters b.found
    let b := { b with rig := { b.rig with dock } }
    match result with
    | .error fault => (.select fault, b)
    | .ok p => (.granted p.info, b.store name p)
  | .known name, b =>
    let ports := b.rig.dock.known
    (.names (ports.map (·.info.name)),
      ports.zipIdx.foldl (fun b p => b.store (name ++ Text.decimal p.2) p.1) b)
  | .fresh info name, b =>
    let (p, dock) := b.rig.dock.fresh info 20
    (.nothing, { b with rig := { b.rig with dock } }.store name p)
  | .openAt port baud, b => b.onPort port fun p => Cell.openAt p.info.name p.timeout baud
  | .close port, b => b.onPort port fun p => Cell.close p.info.name
  | .setBaud port baud, b => b.onPort port fun _ => Cell.setBaud baud
  | .cancelReader port, b => b.onPort port fun p => Cell.cancelReader p.info.name
  | .releaseReader port, b => b.onPort port fun _ c => pure c.releaseReader
  | .closeWriter port, b => b.onPort port fun p => Cell.closeWriter p.info.name
  | .releaseWriter port, b => b.onPort port fun _ c => pure c.releaseWriter
  | .lease stream port name, b =>
    match b.ports.find? (·.1 == port) with
    | none => (.unknown, b)
    | some (_, p) =>
      let (result, rig) := b.rig.onCell p (Cell.lease stream)
      let b := { b with rig }
      match result with
      | .error fault => (.port fault, b)
      | .ok l => (.ok, b.storeLease name p.cell l)
  | .describe port, b =>
    match b.ports.find? (·.1 == port) with
    | none => (.unknown, b)
    | some _ => (.word "NativePort", b)
  | .reclaim port, b =>
    match b.ports.find? (·.1 == port) with
    | none => (.unknown, b)
    | some (_, p) =>
      let (result, rig) := { b.rig with trail := .empty }.reclaimPort p ⟨1, 2⟩ "native"
      (.reclaimed result rig.trail.entries, { b with rig })
  | .read lease count, b =>
    b.onLease (b.readers.find? (·.1 == lease)) (fun l => l.read count) .bytes
  | .write lease bytes, b =>
    b.onLease (b.writers.find? (·.1 == lease)) (fun l => l.write bytes) .count
  | .flush lease, b =>
    b.onLease (b.writers.find? (·.1 == lease)) Lease.flush fun _ => .ok
  | .drop what, b =>
    let (existed, b) := b.dropAll what
    (.existed existed, b)
  | .feed device bytes, b =>
    (.nothing, { b with rig := { b.rig with machine := b.rig.machine.feed device bytes } })
  | .drain device, b =>
    let (bytes, machine) := b.rig.machine.drain device
    (.taken bytes, { b with rig := { b.rig with machine } })

/-- The handles by name, each with its streams and its baud rate. -/
def handles (b : Bay) : List (String × Streams × UInt32) :=
  b.ports.map fun p =>
    let c := b.rig.dock.cell p.2.cell
    (p.1, c.streams, c.baud)

end Bay

end FlashStation.Bench

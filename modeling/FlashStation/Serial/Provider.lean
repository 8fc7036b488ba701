/-
# Granting ports of the machine

A port is granted out of those that were found and pass the filters, as a
chooser says; or it is always the one of a fixed name. Ports that were granted
are remembered. A device has one shared state for as long as it is known, and
every handle of it is a view of that state.

Key definitions: `NativePort`, `Dock`, `Dock.request`, `Dock.known`.
-/
import FlashStation.Serial.Board
import FlashStation.Serial.Native

namespace FlashStation

/-- A handle of a port of the machine: what was known of it when it was first
granted, how long it waits for bytes, and where its shared state is. -/
structure NativePort where
  /-- What is known of the port. -/
  info : PortInfo
  /-- How long reading waits, in milliseconds. -/
  timeout : Nat
  /-- The place of the shared state. -/
  cell : Nat
  deriving DecidableEq, Repr, Inhabited

/-- The shared states of all devices, and the handles that were granted. -/
structure Dock where
  /-- The shared states; a place is never used again. -/
  cells : List Cell
  /-- One handle for each device that was granted, in the order of the first grant. -/
  granted : List NativePort
  deriving DecidableEq, Repr, Inhabited

/-- The ports that may be granted: those that pass the filters. -/
def candidatesOf (filters : List UsbFilter) (detected : List DetectedPort) : List DetectedPort :=
  detected.filter fun p => passesFilters filters p.info.vid p.info.pid

/-- How a provider selects ports. -/
structure Selection where
  /-- The only port that is granted, if there is such a one. -/
  portName : Option String
  /-- Picks one of several ports. -/
  chooser : List DetectedPort → Option Nat
  /-- How long reading waits, in milliseconds. -/
  timeout : Nat

namespace Dock

/-- No device is known. -/
def empty : Dock := ⟨[], []⟩

/-- The shared state at a place. -/
def cell (d : Dock) (place : Nat) : Cell :=
  d.cells.getD place .new

/-- The states with one replaced. -/
def setCell (d : Dock) (place : Nat) (c : Cell) : Dock :=
  { d with cells := d.cells.set place c }

/-- A handle with a state of its own, which nobody shares. -/
def fresh (d : Dock) (info : PortInfo) (timeout : Nat) : NativePort × Dock :=
  (⟨info, timeout, d.cells.length⟩, { d with cells := d.cells ++ [.new] })

/-- Grants a port: another view of the one of that name, if there is one. -/
def grant (d : Dock) (info : PortInfo) (timeout : Nat) : NativePort × Dock :=
  match d.granted.find? (·.info.name == info.name) with
  | some known => ({ known with timeout }, d)
  | none =>
    let (port, d) := d.fresh info timeout
    (port, { d with granted := d.granted ++ [port] })

/-- The handles of all ports that were granted. -/
def known (d : Dock) : List NativePort :=
  d.granted

/-- Asks for a port among those that were found. -/
def request (d : Dock) (selection : Selection) (filters : List UsbFilter)
    (detected : List DetectedPort) : Except SelectFault NativePort × Dock :=
  match selection.portName with
  | some name =>
    let info := ((detected.find? (·.info.name == name)).map (·.info)).getD (.bare name)
    let (port, d) := d.grant info selection.timeout
    (.ok port, d)
  | none =>
    let candidates := candidatesOf filters detected
    if candidates.isEmpty then (.error .noCompatibleDevice, d)
    else
      match (selection.chooser candidates).bind (candidates[·]?) with
      | none => (.error .cancelled, d)
      | some p =>
        let (port, d) := d.grant p.info selection.timeout
        (.ok port, d)

end Dock

end FlashStation

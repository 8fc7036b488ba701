/-
# Commands on ports

Ports are listed, and one is brought back to the closed state. The ports of known
vendors come first: others are shown or offered only if there are none of those,
or if all are asked for. A port that is brought back is opened before, which tells
whether another program has it.

Key definitions: `isKnownPort`, `visiblePorts`, `listPorts`, `PortWish`,
`requestPort`, `reclaimNamed`.
-/
import FlashStation.Shell.Menu
import FlashStation.Shell.Report
import FlashStation.Shell.Settings
import FlashStation.Station.State

namespace FlashStation

/-! ### Listing -/

/-- Whether a port is of a known vendor or of one that was added to those. -/
def isKnownPort (vendors : List UInt16) (p : DetectedPort) : Bool :=
  p.isAllowed || (p.info.vid.map vendors.contains).getD false

/-- The ports to show. -/
def visiblePorts (vendors : List UInt16) (all : Bool) (found : List DetectedPort) :
    List DetectedPort :=
  if all || !found.any (isKnownPort vendors) then found
  else found.filter (isKnownPort vendors)

/-- A port as data. -/
def portData (vendors : List UInt16) (p : DetectedPort) : Json :=
  .obj [("device", .str p.kind.name),
    ("known", .bool (isKnownPort vendors p)),
    ("manufacturer", .ofOption .str p.info.manufacturer),
    ("name", .str p.info.name),
    ("pid", .ofOption (fun n => .num n.toNat) p.info.pid),
    ("product", .ofOption .str p.info.product),
    ("serial", .ofOption .str p.info.serial),
    ("vid", .ofOption (fun n => .num n.toNat) p.info.vid)]

/-- A port's line in the list. -/
def portLine (p : DetectedPort) : String :=
  let device := if p.kind.isKnown then s!" [{p.kind.name}]" else ""
  s!"  • {p.info.name}{device}{p.numbers}{p.productText}"

/-- The list of some ports. -/
def portLines (ports : List DetectedPort) : List String :=
  "Available serial ports:" ::
    if ports.isEmpty then ["  No serial ports found"]
    else
      ports.map portLine ++
        match (bestCandidate ports).bind (ports[·]?) with
        | none => []
        | some best => ["", s!"→ Most likely board: {best.info.name}"]

/-- Lists the ports. -/
def listPorts (settings : Settings) (json all : Bool) : Program Shell Report := do
  let ports := visiblePorts settings.vendors all (← Shell.detect)
  pure (if json then .ofData [("ports", .arr (ports.map (portData settings.vendors)))]
    else .lines (portLines ports))

/-! ### Selecting -/

/-- How a port is to be selected. -/
structure PortWish where
  /-- The only port that will do. -/
  port : Option String
  /-- The columns of the screen, if there is an operator who can be asked. -/
  screen : Option Nat
  deriving DecidableEq, Repr, Inhabited

/-- Adds a note of this module to the diagnostic log. -/
def PortWish.note (level : Level) (message : String) : Program Shell Unit :=
  Shell.note level .selection message

/-- Picks one of some ports: the operator does, or it is the only one. -/
def PortWish.pick (wish : PortWish) (candidates : List DetectedPort) :
    Program Shell (Option Nat) :=
  match wish.screen with
  | some width =>
    .perform (S := Shell)
      (.prompt (menuLabels width candidates) ((bestCandidate candidates).getD 0))
  | none =>
    match candidates with
    | [only] => do
      PortWish.note .info s!"Auto-selected port: {only.info.name}"
      pure (some 0)
    | _ => pure none

/-- How long reading from a port waits, in milliseconds. -/
def portTimeout : Nat := 1000

/-- Asks for a port that passes the filters. -/
def requestPort (dock : Dock) (wish : PortWish) (filters : List UsbFilter) :
    Program Shell (Except SelectFault NativePort × Dock) := do
  let found ← Shell.detect
  let candidates := if wish.port.isSome then [] else candidatesOf filters found
  let picked ← if candidates.isEmpty then pure none else wish.pick candidates
  pure (dock.request ⟨wish.port, fun _ => picked, portTimeout⟩ filters found)

/-- Asks for a port that passes the filters, and if there is none for any port. -/
def selectPort (dock : Dock) (wish : PortWish) (filters : List UsbFilter) :
    Program Shell (Except SelectFault NativePort × Dock) := do
  match ← requestPort dock wish filters with
  | (.error .noCompatibleDevice, dock) => requestPort dock wish []
  | other => pure other

/-- A fault of selection as the fault of a command. -/
def selectionFault (wish : PortWish) : SelectFault → CommandFault
  | .noCompatibleDevice => .noPorts
  | .cancelled => if wish.screen.isSome then .cancelled else .severalPorts
  | fault => .selection fault

/-! ### Bringing back -/

/-- Runs a call on the shared state of a port. -/
def onPort (dock : Dock) (p : NativePort) (call : Cell → Program System (α × Cell)) :
    Program Shell (α × Dock) := do
  let (a, c) ← Shell.onSystem (call (dock.cell p.cell))
  pure (a, dock.setCell p.cell c)

/-- Selects a port, opens it and brings it back to the closed state. -/
def reclaimPort (settings : Settings) (wish : PortWish) :
    Program Shell (Except CommandFault Report) := do
  let config := Config.default.withVendors settings.vendors
  match wish.port with
  | some name => PortWish.note .debug s!"Using explicit port {name}"
  | none => pure ()
  match ← selectPort .empty wish config.filters with
  | (.error fault, _) => pure (.error (selectionFault wish fault))
  | (.ok port, dock) =>
    let name := port.info.name
    Shell.log .info s!"Selected {name} ({port.info.describe})"
    match ← onPort dock port (Cell.openAt name port.timeout config.romBaud) with
    | (.error fault, _) =>
      Shell.log .error
        s!"Unable to open {name}: {fault.message}. Another program may still hold it."
      pure (.error (.busy name))
    | (.ok (), dock) =>
      Shell.log .trace s!"Opened at {Text.decimal (dock.cell port.cell).baud.toNat} baud"
      match ← onPort dock port
          (Cell.reclaimed ⟨config.settle, config.closeSettle⟩ port.info "selected") with
      | (.error fault, _) => pure (.error (.release name fault))
      | (.ok (), _) =>
        Shell.log .success s!"{name} is free"
        pure (.ok (.lines []))

end FlashStation

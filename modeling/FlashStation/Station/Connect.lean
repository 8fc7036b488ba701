/-
# Connecting and disconnecting

A connect brings every port that was granted before back to the closed state,
asks for a port (one that passes the filters, or any if none does), shakes hands
with the boot loader on it and asks the board about itself. What the board does
not tell is left out; if there is no port or no handshake, the station is idle
again. After each wait a connect looks whether it was superseded; if so, it
gives back what it holds and leaves the record alone.

A disconnect ends the session at once, whatever the station is doing. What is
under way goes on and finds itself superseded.

Key definitions: `Station.attempt`, `Station.connect`, `Station.disconnect`.
-/
import FlashStation.Station.Desk

namespace FlashStation.Station

/-- Reports how many ports are known and how they are, before any is touched. -/
def startupCheck : Program Station Unit := do
  match ← perform .knownPorts with
  | .error fault => trace s!"[STARTUP CHECK] Failed: {fault.message}"
  | .ok ports =>
    log .info s!"[STARTUP CHECK] Provider has {Text.decimal ports.length} port(s) in memory"
    Program.each (fun p : Port × Nat => do
      let streams ← perform (.link (.streams p.1))
      log .info s!"[STARTUP CHECK] Port {Text.decimal p.2}: {p.1.describe} | {streams.text}")
      ports.zipIdx

/-- Brings the ports that were granted before back to the closed state. -/
def reclaimKnown (config : Config) : Program Station Unit := do
  trace "Checking for previously opened ports…"
  match ← perform .knownPorts with
  | .error fault => trace s!"Unable to enumerate existing ports: {fault.message}"
  | .ok ports =>
    trace s!"Provider reported {Text.decimal ports.length} known port(s)."
    Program.each (fun port => do
      trace s!"Inspecting known port {port.describe}…"
      restorePort config port "previous" .error fun message =>
        s!"Failed to close previous port {port.describe}: {message}. Will try to continue anyway.")
      ports

/-- Asks for a port: one that passes the filters, or any if none passes. -/
def askForPort (config : Config) : Program Station (Except SelectFault Port) := do
  match ← perform (.requestPort config.filters) with
  | .error .noCompatibleDevice =>
    if config.filters.isEmpty then pure (.error .noCompatibleDevice)
    else
      trace "No devices matched the known USB IDs. Showing all serial ports as a fallback…"
      perform (.requestPort [])
  | other => pure other

/-- Asks for a port, and tells why there is none. -/
def selectPort (config : Config) : Program Station (Except ConnectFault Port) := do
  trace s!"Opening port selection with {Text.decimal config.filters.length} USB filter(s)…"
  match ← askForPort config with
  | .ok port => pure (.ok port)
  | .error .cancelled =>
    trace "Port selection was closed without choosing a device."
    pure (.error .selectionCancelled)
  | .error fault => pure (.error (.selection fault))

/-- Makes a loader for a port that was asked for and brought back to the closed
state. -/
def acquire (config : Config) (generation : Nat) (baud : UInt32) :
    Program Station (Except ConnectFault Loader) := do
  reclaimKnown config
  if !(← isCurrent generation) then pure (.error .superseded)
  else
    match ← selectPort config with
    | .error fault => pure (.error fault)
    | .ok port =>
      trace s!"User selected: {port.describe}"
      let streams ← perform (.link (.streams port))
      trace s!"Immediately after selection state: {streams.text}"
      restorePort config port "selected" .error fun message =>
        "Failed to close port before connecting. " ++
          s!"This may indicate an OS lock issue. Error: {message}"
      if !(← isCurrent generation) then
        restorePort config port "abandoned" .trace fun message =>
          s!"Failed to release abandoned port: {message}"
        pure (.error .superseded)
      else
        trace (s!"Loader created for {port.describe}. Starting bootloader handshake " ++
          s!"({Text.decimal config.romBaud.toNat} baud ROM, " ++
          s!"{Text.decimal baud.toNat} baud flashing)…")
        pure (.ok (← perform (.attach port baud config.romBaud)))

/-- Loads the flasher into the board's memory, if that works. -/
def loadStub (loader : Loader) : Program Station Unit := do
  match ← perform (.runStub loader) with
  | .ok () => log .success "Flasher stub uploaded"
  | .error fault => trace s!"Stub load skipped: {fault.message}"

/-- The text of the flash chip's identifier, if the board tells it. -/
def askFlashId (loader : Loader) : Program Station (Option String) := do
  match ← perform (.flashId loader) with
  | .ok id => pure (some (flashIdText id))
  | .error fault =>
    log .error s!"Unable to read flash ID: {fault.message}"
    pure none

/-- The flash chip's size, if the board tells it. -/
def askFlashSize (loader : Loader) : Program Station (Option Nat) := do
  match ← perform (.flashSize loader) with
  | .ok size => pure (some size)
  | .error fault =>
    trace s!"Unable to determine flash size: {fault.message}"
    pure none

/-- Shakes hands and asks the board about itself. -/
def inventory (generation : Nat) (loader : Loader) :
    Program Station (Except ConnectFault DeviceInfo) := do
  let handshake ← perform (.handshake loader)
  if !(← isCurrent generation) then pure (.error .superseded)
  else
    match handshake with
    | .error fault => pure (.error (.handshake fault))
    | .ok () =>
      log .success "Bootloader handshake successful"
      loadStub loader
      if !(← isCurrent generation) then pure (.error .superseded)
      else
        let chip ← perform (.chipName loader)
        let flashId ← askFlashId loader
        if !(← isCurrent generation) then pure (.error .superseded)
        else
          let flashSize ← askFlashSize loader
          if !(← isCurrent generation) then pure (.error .superseded)
          else pure (.ok ⟨chip, flashId, flashSize, some loader.port.info⟩)

/-- Records a connect's fault and makes the station idle. A superseded connect
leaves the record alone. -/
def failConnect (generation : Nat) (fault : ConnectFault) : Program Station Unit := do
  if fault = .superseded then
    trace s!"Connection attempt {Text.decimal generation} was superseded; discarding its result"
  else
    log (if fault = .selectionCancelled then .info else .error)
      s!"Connection error: {fault.message}"
    if ← isCurrent generation then
      update fun d => { d with lastError := some fault.message, session := none, info := none }
      setPhase .idle

/-- Gives the port of a session before this one back, and waits a while. -/
def cleanUp (config : Config) : Option Session → Program Station Unit
  | none => pure ()
  | some previous => do
    trace "Cleaning up previous session…"
    release config previous.loader "previous session"
    perform (.link (.sleep config.supersede))

/-- What a connect does once the record has its generation. `previous` is the
session that was in the record. -/
def attempt (config : Config) (generation : Nat) (baud : UInt32) (previous : Option Session) :
    Program Station (Except ConnectFault DeviceInfo) := do
  log .info "==== NEW CONNECTION ATTEMPT ===="
  startupCheck
  log .info "Requesting serial port access…"
  cleanUp config previous
  match ← acquire config generation baud with
  | .error fault =>
    failConnect generation fault
    pure (.error fault)
  | .ok loader =>
    match ← inventory generation loader with
    | .ok info =>
      log .success s!"Connected to {info.chipText}"
      update fun d => { d with session := some ⟨loader, generation, baud⟩, info := some info }
      setPhase .connected
      pure (.ok info)
    | .error fault =>
      release config loader "failed attempt"
      failConnect generation fault
      pure (.error fault)

/-- Connects to a board, at a baud rate of the caller's or else the default one. -/
def connect (config : Config) (preferred : Option UInt32) :
    Program Station (Except ConnectFault DeviceInfo) := do
  if !(← perform .supported) then
    log .error ConnectFault.unsupported.message
    setLastError ConnectFault.unsupported.message
    pure (.error .unsupported)
  else
    let desk ← read
    if desk.phase = .connecting ∨ desk.phase = .flashing then
      trace s!"Connect ignored while {desk.phase.text}"
      pure (.error (.busy desk.phase))
    else
      let generation := desk.generation + 1
      write { desk with
        generation, lastError := none, progress := 0, info := none, session := none }
      setPhase .connecting
      attempt config generation (preferred.getD config.defaultBaud) desk.session

/-- What a disconnect does once the session is over. `session` and `phase` are
those that were in the record. -/
def letGo (config : Config) (session : Option Session) (phase : Phase) : Program Station Unit :=
  match session with
  | some session => do
    release config session.loader "disconnect"
    log .success "Serial port released"
  | none =>
    match phase with
    | .connecting => trace "Port release deferred to the pending connect attempt"
    | .flashing => trace "Port release deferred to the running flash"
    | .idle | .connected => trace "No open session to release"

/-- Ends the session, whatever the station is doing. -/
def disconnect (config : Config) : Program Station Unit := do
  log .info "Disconnecting from device…"
  let desk ← read
  write { desk with generation := desk.generation + 1, info := none, session := none }
  setPhase .idle
  letGo config desk.session desk.phase

end FlashStation.Station

/-
# Flashing

A flash takes the session, fetches the payload, writes it and resets the board;
then it puts the session back, whether it worked or not. A reset that does not
work is told and is no failure. If the session was torn down meanwhile, the
flash finds that out after each wait, gives the port back and leaves the record
alone.

Progress is a percentage of the file that is being written: 0 at first, then
one value per report, and 100 when all is done.

Key definitions: `percent`, `Station.flash`, `Station.flashChoice`,
`Station.reportProgress`.
-/
import FlashStation.Station.Desk

namespace FlashStation

/-- One file of a flash that worked. -/
structure FlashedFile where
  /-- Its place in the payload. -/
  index : Nat
  /-- Its flash address. -/
  address : UInt32
  /-- Its size in bytes. -/
  size : Nat
  deriving DecidableEq, Repr, Inhabited

/-- How the reset after a flash went. -/
inductive ResetOutcome where
  /-- Through the control lines. -/
  | hard
  /-- Through the boot loader. -/
  | soft
  /-- It did not work. -/
  | failed (message : String)
  deriving DecidableEq, Repr, Inhabited

/-- What a flash that worked has done. -/
structure FlashSummary where
  /-- The chip's name, as the connect learned it. -/
  chip : Option String
  /-- The files, in the order of writing. -/
  files : List FlashedFile
  /-- How the reset went. -/
  reset : ResetOutcome
  deriving DecidableEq, Repr, Inhabited

/-- The largest number of 64 bits. -/
def largestWord : Nat := 0xFFFFFFFFFFFFFFFF

/-- The part of a file that is written, in whole percent; an empty file is
complete. The product is cut at the largest number of 64 bits. -/
def percent (written total : UInt64) : Nat :=
  if total = 0 then 100
  else min (min (written.toNat * 100) largestWord / total.toNat) 100

/-- The files of a payload as a summary lists them. -/
def Payload.flashedFiles (p : Payload) : List FlashedFile :=
  p.files.mapIdx fun index file => ⟨index, file.address, file.data.length⟩

/-- A line on a file that was written. -/
def FlashedFile.text (f : FlashedFile) : String :=
  s!"  [{Text.decimal f.index}] {addressText f.address} ({Text.decimal f.size} bytes)"

namespace Station

/-- Refuses a flash because of the phase. -/
def rejectFlash (phase : Phase) : Program Station FlashFault := do
  let fault := FlashFault.notConnected phase
  log .error fault.message
  setLastError fault.message
  pure fault

/-- A report of the loader on the file being written, on behalf of the flash of
a generation. It counts only while the generation is the record's. -/
def reportProgress (generation : Nat) (written total : UInt64) : Program Station Unit := do
  if ← isCurrent generation then
    let value := percent written total
    update fun d => { d with progress := value }
    perform (.progress value)

/-- Records what was written. -/
def logSummary (chip : Option String) (payload : Payload) : Program Station Unit := do
  log .info "--- Flash Summary ---"
  log .info ("Chip: " ++ chip.getD "Unknown")
  log .info s!"Files written: {Text.decimal payload.files.length}"
  Program.each (fun f => log .info (FlashedFile.text f)) payload.flashedFiles
  log .info "--------------------"

/-- Asks the loader to restart the board, through the control lines or through
the boot loader. -/
def restart (loader : Loader) (hard : Bool) : Program Station (Except ProtocolFault Unit) :=
  if hard then perform (.hardReset loader) else perform (.softReset loader)

/-- Restarts the board, through the control lines if the loader can. -/
def reset (loader : Loader) : Program Station ResetOutcome := do
  let hard ← perform (.hasHardReset loader)
  let kind := if hard then "hard" else "soft"
  match ← restart loader hard with
  | .ok () =>
    log .success s!"Device {kind}-reset issued - board should reboot now"
    pure (if hard then .hard else .soft)
  | .error fault =>
    trace s!"Reset failed: {fault.message}. Manually press the RESET button on your board."
    pure (.failed fault.message)

/-- Fetches a payload, writes it and restarts the board. -/
def writeSource (generation : Nat) (loader : Loader) (source : Source) (chip : Option String) :
    Program Station (Except FlashFault FlashSummary) := do
  match ← onSupply (materialize source) with
  | .error fault => pure (.error (.fetch fault))
  | .ok payload =>
    if !(← isCurrent generation) then pure (.error .superseded)
    else
      log .info "Writing firmware to flash…"
      match ← perform (.writeFlash loader payload true generation) with
      | .error fault => pure (.error (.write fault))
      | .ok () =>
        if !(← isCurrent generation) then pure (.error .superseded)
        else
          log .success "Firmware written successfully"
          logSummary chip payload
          let outcome ← reset loader
          pure (.ok ⟨chip, payload.flashedFiles, outcome⟩)

/-- The text for a flash whose session was torn down before its outcome was
there. -/
def discardedText : Except FlashFault FlashSummary → String
  | .ok _ => "Flash finished after the session was torn down; discarding result"
  | .error fault =>
    s!"Flash failed after the session was torn down; discarding result: {fault.message}"

/-- Puts the session back and records the outcome of a flash, or gives the port
back if the session was torn down meanwhile. -/
def finishFlash (config : Config) (generation : Nat) (session : Session)
    (outcome : Except FlashFault FlashSummary) :
    Program Station (Except FlashFault FlashSummary) := do
  if !(← isCurrent generation) then
    trace (discardedText outcome)
    release config session.loader "abandoned flash"
    pure (.error .superseded)
  else
    match outcome with
    | .ok summary =>
      update fun d => { d with session := some session, progress := 100 }
      setPhase .connected
      perform (.progress 100)
      pure (.ok summary)
    | .error fault =>
      log .error s!"Flash failed: {fault.message}"
      update fun d => { d with session := some session, lastError := some fault.message }
      setPhase .connected
      pure (.error fault)

/-- Flashes a source with a session that was taken from the record. -/
def flashWith (config : Config) (generation : Nat) (session : Session) (source : Source)
    (chip : Option String) : Program Station (Except FlashFault FlashSummary) := do
  perform (.progress 0)
  log .info "Preparing firmware payload…"
  let outcome ← writeSource generation session.loader source chip
  finishFlash config generation session outcome

/-- Flashes a source to the board that is connected. -/
def flash (config : Config) (source : Source) :
    Program Station (Except FlashFault FlashSummary) := do
  let desk ← read
  if desk.phase ≠ .connected then pure (.error (← rejectFlash desk.phase))
  else
    match desk.session with
    | none => pure (.error (← rejectFlash desk.phase))
    | some session =>
      write { desk with session := none, lastError := none, progress := 0 }
      setPhase .flashing
      flashWith config desk.generation session source (desk.info.bind (·.chip))

/-- Flashes what an operator chose. A choice that cannot be written is refused
before anything is fetched. -/
def flashChoice (config : Config) (choice : Choice) :
    Program Station (Except Failure FlashSummary) := do
  let desk ← read
  if desk.phase ≠ .connected then pure (.error (.flash (← rejectFlash desk.phase)))
  else
    match choice.resolve with
    | .error fault =>
      log .error s!"Flash failed: {fault.message}"
      setLastError fault.message
      pure (.error (.choice fault))
    | .ok source =>
      match ← flash config source with
      | .ok summary => pure (.ok summary)
      | .error fault => pure (.error (.flash fault))

end Station

end FlashStation

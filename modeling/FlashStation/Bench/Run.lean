/-
# Running a script

The station's operations are answered by the bench. One that suspends first runs
the steps that are hooked to it, to their end, and then does what it is for. The
steps may suspend in turn; how deep that can go is bounded by the number of
hooked lists, each of which runs once.

Key definitions: `serve`, `runStep`, `run`.
-/
import FlashStation.Bench.World

namespace FlashStation.Bench

/-- Answers the station's operations. -/
abbrev Handler :=
  (op : StationOp) → World → op.Answer × World

/-- What runs at a point, before an operation does anything. -/
abbrev Hook :=
  Point → World → World

/-! ### Ports -/

/-- What a call does to a port's streams. -/
def callPort (s : Streams) : PortCall → Except PortFault Unit × Streams
  | .opening => if s.isOpen then (.error .alreadyOpen, s) else (.ok (), .free)
  | .cancelReader | .closeWriter => (.ok (), s)
  | .releaseReader =>
    match s.readable with
    | none => (.error (.noStream .readable), s)
    | some _ => (.ok (), { s with readable := some false })
  | .releaseWriter =>
    match s.writable with
    | none => (.error (.noStream .writable), s)
    | some _ => (.ok (), { s with writable := some false })
  | .close =>
    if s.readableLocked then (.error (.locked .readable), s)
    else if s.writableLocked then (.error (.locked .writable), s)
    else if !s.isOpen then (.error .notOpen, s)
    else (.ok (), .closed)

/-- Whether steps may be hooked to a call of a port. -/
def PortCall.suspends : PortCall → Bool
  | .releaseReader | .releaseWriter => false
  | _ => true

/-- Calls a port: its hook runs, it fails as planned, or it does what it is for. -/
def servePort (hook : Hook) (id : String) (call : PortCall) (baud : UInt32) (w : World) :
    Except PortFault Unit × World :=
  let w := if call.suspends then hook (.port call) w else w
  let (planned, w) := w.nextPortFault (.call id call)
  match planned with
  | some fault => (.error fault, w.emit (.port id call baud (.error fault)))
  | none =>
    let (result, streams) := callPort (w.streamsOf id) call
    (result, (w.setStreams id streams).emit (.port id call baud result))

/-- Answers the operations on ports. -/
def serveLink (hook : Hook) : (op : LinkOp) → World → op.Answer × World
  | .streams port, w => (w.streamsOf port.device, w)
  | .cancelReader port, w => servePort hook port.device .cancelReader 0 w
  | .releaseReader port, w => servePort hook port.device .releaseReader 0 w
  | .closeWriter port, w => servePort hook port.device .closeWriter 0 w
  | .releaseWriter port, w => servePort hook port.device .releaseWriter 0 w
  | .close port, w => servePort hook port.device .close 0 w
  | .sleep ms, w => ((), { w with ms := w.ms + ms })
  | .log variant message, w => ((), w.log variant message)
  | .note _, w => ((), w)

/-! ### Bytes -/

/-- Where a path that is not on the machine leads to. -/
def madeUpLocation (path : String) : String :=
  "fake://" ++ path

/-- Fetches a path: from the base if there is one, and else as the script says. -/
def serveFetch (hook : Hook) (path : String) (w : World) :
    Except FetchFault (List UInt8) × World :=
  match w.base with
  | some base => ((base.fetch "" w.disk .unreachable path).1, w)
  | none =>
    let w := hook .fetch w
    let result : Except FetchFault (List UInt8) :=
      match valueAt w.files path none with
      | some (.data bytes) => .ok bytes
      | some (.fault fault) => .error fault
      | none => .error (.status (madeUpLocation path) 404)
    (result, w.emit (.fetch path (result.map fun _ => ())))

/-- Answers the operations that get bytes. -/
def serveSupply (hook : Hook) : (op : SupplyOp) → World → op.Answer × World
  | .locate path, w =>
    ((w.base.map (·.locate path)).getD (madeUpLocation path), w)
  | .fetch path, w => serveFetch hook path w
  | .readLocal path, w => (w.disk.readLocal path, w)
  | .log variant message, w => ((), w.log variant message)
  | .note _, w => ((), w)

/-! ### The provider of ports -/

/-- Lists the ports that were granted. -/
def serveKnownPorts (hook : Hook) (w : World) : Except PortFault (List Port) × World :=
  let w := hook .knownPorts w
  let (planned, w) := w.nextPortFault .knownPorts
  match planned with
  | some fault => (.error fault, w.emit (.knownPorts (.error fault)))
  | none => (.ok (w.known.map w.portAt), w.emit (.knownPorts (.ok ())))

/-- Answers a request for a port. -/
def serveRequest (hook : Hook) (filters : List UsbFilter) (w : World) :
    Except SelectFault Port × World :=
  let w := hook .requestPort w
  let (response, rest) : Response × List Response :=
    match w.responses with
    | [] => (.refuse .cancelled, [])
    | r :: rest => (r, rest)
  let w := { w with responses := rest }
  let passes (id : String) : Bool :=
    let info := (w.portAt id).info
    passesFilters filters info.vid info.pid
  let result : Except SelectFault String :=
    match response with
    | .grant id => .ok id
    | .attached ids =>
      match ids.find? passes with
      | some id => .ok id
      | none => .error .noCompatibleDevice
    | .refuse fault => .error fault
  let w := w.emit (.requestPort filters result)
  match result with
  | .error fault => (.error fault, w)
  | .ok id =>
    (.ok (w.portAt id), { w with known := if w.known.contains id then w.known else w.known ++ [id] })

/-! ### The loader -/

/-- Calls the loader: its hook runs, and it fails as planned or succeeds. A
loader that cannot do it says so instead. -/
def serveCall (hook : Hook) (call : LoaderCall) (word : String) (what : String)
    (answer : LoaderScript → Answered α) (w : World) : Except ProtocolFault α × World :=
  let w := hook (.loader call) w
  match answer w.loader with
  | .missing => (.error (.unsupported what), w.emit (.loader word (.error (.unsupported what))))
  | .value a =>
    let (planned, w) := w.nextLoaderFault call
    match planned with
    | some fault => (.error fault, w.emit (.loader word (.error fault)))
    | none => (.ok a, w.emit (.loader word (.ok ())))

/-- Shakes hands: the port is opened, the loader prints, it fails as planned, or
it locks the streams that it uses. -/
def serveHandshake (hook : Hook) (loader : Loader) (w : World) :
    Except ProtocolFault Unit × World :=
  let id := loader.port.device
  let w := hook (.loader .handshake) w
  let (opened, w) : Except PortFault Unit × World :=
    if w.loader.opens then servePort hook id .opening loader.romBaud w else (.ok (), w)
  match opened with
  | .error fault =>
    (.error (.port fault), w.emit (.loader "handshake" (.error (.port fault))))
  | .ok () =>
    let w := w.loader.terminal.foldl World.print w
    let (planned, w) := w.nextLoaderFault .handshake
    match planned with
    | some fault => (.error fault, w.emit (.loader "handshake" (.error fault)))
    | none =>
      let s := w.streamsOf id
      let s := if w.loader.locksReadable then { s with readable := some true } else s
      let s := if w.loader.locksWritable then { s with writable := some true } else s
      (.ok (), (w.setStreams id s).emit (.loader "handshake" (.ok ())))

/-- What the loader does while it writes: reports go to the flash of a
generation, and steps run. -/
def serveWriteStep (steps : List Step → World → World) (report : UInt64 → UInt64 → World → World)
    (w : World) : WriteStep → World
  | .report written total => report written total w
  | .steps list => steps list w

/-- Writes a payload. -/
def serveWrite (hook : Hook) (steps : List Step → World → World)
    (report : UInt64 → UInt64 → World → World) (payload : Payload) (compress : Bool) (w : World) :
    Except ProtocolFault Unit × World :=
  let w := hook (.loader .write) w
  let w := w.emit (.write payload compress)
  let w := w.loader.writes.foldl (serveWriteStep steps report) w
  let (planned, w) := w.nextLoaderFault .write
  let result : Except ProtocolFault Unit :=
    match planned with
    | some fault => .error fault
    | none => .ok ()
  (result, w.emit (.loader "written" result))

/-! ### The station -/

/-- Answers the station's operations, with what is hooked in, the steps that run
while the loader writes, and where its reports go. -/
def serveWith (hook : Hook) (steps : List Step → World → World)
    (report : Nat → UInt64 → UInt64 → World → World) : Handler
  | .link op, w => serveLink hook op w
  | .supply op, w => serveSupply hook op w
  | .read, w => (w.desk, w)
  | .current generation, w => (w.desk.generation == generation, w)
  | .write desk, w => ((), { w with desk })
  | .changed before after, w => ((), w.emit (.phase before after))
  | .progress percent, w => ((), w.emit (.progress percent))
  | .supported, w => (w.supported, w)
  | .knownPorts, w => serveKnownPorts hook w
  | .requestPort filters, w => serveRequest hook filters w
  | .attach port baud romBaud, w =>
    (⟨w.tickets, port, baud, romBaud⟩,
      { w with tickets := w.tickets + 1 }.emit (.attach port.device baud romBaud))
  | .intoPort loader, w => (loader.port, w)
  | .handshake loader, w => serveHandshake hook loader w
  | .runStub _, w => serveCall hook .stub "stub" "stub upload" (·.stub) w
  | .chipName _, w => (w.loader.chip, w)
  | .flashId _, w => serveCall hook .flashId "flash_id" "flash id query" (·.flashId) w
  | .flashSize _, w => serveCall hook .flashSize "flash_size" "flash size query" (·.flashSize) w
  | .writeFlash _ payload compress generation, w =>
    serveWrite hook steps (report generation) payload compress w
  | .hasHardReset _, w => (w.loader.hardReset, w)
  | .hardReset _, w => serveCall hook .reset "hard_reset" "hard reset" (·.reset) w
  | .softReset _, w => serveCall hook .reset "soft_reset" "soft reset" (·.reset) w

/-- Runs a step's call of the station or its change of the bench. -/
def runStep (handler : Handler) : Step → World → Outcome × World
  | .connect baud, w =>
    let (result, w) := (Station.connect w.config baud).run handler w
    (.connected result, w)
  | .disconnect, w => (.nothing, ((Station.disconnect w.config).run handler w).2)
  | .flash choice, w =>
    match choice.resolve with
    | .error fault => (.unresolved fault, w)
    | .ok source =>
      let (result, w) := (Station.flash w.config source).run handler w
      (.flashed result, w)
  | .flashChoice choice, w =>
    let (result, w) := (Station.flashChoice w.config choice).run handler w
    (.flashedChoice result, w)
  | .reclaim id context delays, w =>
    let delays := delays.getD ⟨Config.default.settle, Config.default.closeSettle⟩
    let (result, w) := (Station.onLink (reclaim delays (w.portAt id) context)).run handler w
    (.reclaimed result, w)
  | .log variant message, w => (.nothing, w.log variant message)
  | .clearLog, w =>
    let w := { w with trail := w.trail.clear }
    (.cleared w.trail.size w.trail.entries.isEmpty, w)
  | .count variant, w => (.counted (w.trail.count variant), w)
  | .look, w => (.seen w.view, w)
  | .respond responses, w => (.nothing, { w with responses := w.responses ++ responses })
  | .known ids, w => (.nothing, { w with known := ids })
  | .port id streams, w => (.nothing, w.setStreams id streams)
  | .supported value, w => (.nothing, { w with supported := value })
  | .loader changes, w => (.nothing, { w with loader := changes.foldl LoaderScript.change w.loader })
  | .fail ports loader, w =>
    (.nothing, { w with
      portPlans := overlay w.portPlans ports
      loaderPlans := overlay w.loaderPlans loader })
  | .files files, w => (.nothing, { w with files := overlay w.files files })
  | .hooks hooks, w => (.nothing, { w with hooks := overlay w.hooks hooks })

/-- Runs hooked steps, and marks where each begins and ends. -/
def runHooked (handler : Handler) (steps : List Step) (w : World) : World :=
  steps.foldl (fun w step =>
    let (outcome, w) := runStep handler step (w.emit (.begins step.word))
    w.emit (.ends step.word outcome)) w

/-- Sends a loader's report to the flash of a generation. -/
def runReport (generation : Nat) (written total : UInt64) (w : World) : World :=
  ((Station.reportProgress generation written total).run
    (serveWith (fun _ w => w) (fun _ w => w) (fun _ _ _ w => w)) w).2

/-- Answers the station's operations; hooked steps may suspend `depth` times
inside each other. -/
def serve : Nat → Handler
  | 0 => serveWith (fun _ w => w) (fun _ w => w) runReport
  | depth + 1 =>
    let steps := runHooked (serve depth)
    serveWith
      (fun point w =>
        let (hooked, w) := w.nextHook point
        steps hooked w)
      steps runReport

/-- What a step of the script has led to. -/
structure Report where
  /-- What came of it. -/
  outcome : Outcome
  /-- What happened, in order. -/
  events : List Event
  /-- The station afterwards. -/
  view : View

/-- Runs the steps of a script one after the other. -/
def runAll (handler : Handler) : List Step → World → List Report
  | [], _ => []
  | step :: rest, w =>
    let (outcome, w) := runStep handler step { w with events := [] }
    ⟨outcome, w.events, w.view⟩ :: runAll handler rest w

/-- Runs a script. -/
def run (steps : List Step) (w : World) : List Report :=
  runAll (serve (hookLists w.hooks + writeLists w.loader.writes + stepLists steps)) steps w

end FlashStation.Bench

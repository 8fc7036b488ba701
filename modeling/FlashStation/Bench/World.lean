/-
# The bench

The bench is what a script's station works on: made-up ports with their streams,
what requests and calls are answered with, the station's record, its trail and a
clock that only waiting moves. Whatever happens is kept as a list of events in
the order in which it happened.

Key definitions: `World`, `Event`, `World.view`.
-/
import FlashStation.Bench.Script
import FlashStation.Place.Web

namespace FlashStation.Bench

/-- What can be seen of a station from outside. -/
structure View where
  /-- What it is doing. -/
  phase : Phase
  /-- Whether there is a session, free or in use. -/
  connected : Bool
  /-- What is known of the board. -/
  info : Option DeviceInfo
  /-- The progress of the last flash. -/
  progress : Nat
  /-- The text of the last fault. -/
  lastError : Option String
  /-- The number of connects and disconnects. -/
  generation : Nat
  /-- The session's baud rate. -/
  baud : Option UInt32
  /-- The number of entries of the trail. -/
  trail : Nat
  /-- The milliseconds waited so far. -/
  ms : Nat
  /-- The streams of the ports. -/
  ports : List (String × Streams)
  deriving DecidableEq, Repr, Inhabited

/-- What came of a step. -/
inductive Outcome where
  /-- Nothing to tell. -/
  | nothing
  /-- A connect. -/
  | connected (result : Except ConnectFault DeviceInfo)
  /-- A choice that cannot be written. -/
  | unresolved (fault : ChoiceFault)
  /-- A flash of a source. -/
  | flashed (result : Except FlashFault FlashSummary)
  /-- A flash of a choice. -/
  | flashedChoice (result : Except Failure FlashSummary)
  /-- A port brought back to the closed state. -/
  | reclaimed (result : Except ReclaimFault Unit)
  /-- A trail that was cleared: its size and whether it is empty. -/
  | cleared (size : Nat) (isEmpty : Bool)
  /-- A number of entries. -/
  | counted (n : Nat)
  /-- The station as it is seen. -/
  | seen (view : View)

/-- Something that happened on the bench. -/
inductive Event where
  /-- A hooked step begins. -/
  | begins (word : String)
  /-- A hooked step is over. -/
  | ends (word : String) (outcome : Outcome)
  /-- A port was called; opening it names a baud rate. -/
  | port (id : String) (call : PortCall) (baud : UInt32) (result : Except PortFault Unit)
  /-- The ports were listed. -/
  | knownPorts (result : Except PortFault Unit)
  /-- A port was asked for. -/
  | requestPort (filters : List UsbFilter) (result : Except SelectFault String)
  /-- A loader was made. -/
  | attach (id : String) (baud romBaud : UInt32)
  /-- The loader was called. -/
  | loader (word : String) (result : Except ProtocolFault Unit)
  /-- The loader begins to write. -/
  | write (payload : Payload) (compress : Bool)
  /-- Bytes were fetched. -/
  | fetch (path : String) (result : Except FetchFault Unit)
  /-- An entry was added to the trail. -/
  | log (entry : Entry)
  /-- The phase changed. -/
  | phase (before after : Phase)
  /-- Progress was reported. -/
  | progress (percent : Nat)

/-- The bench. -/
structure World where
  /-- The station's settings. -/
  config : Config
  /-- The station's record. -/
  desk : Desk
  /-- The trail. -/
  trail : Trail
  /-- What has happened, oldest first. -/
  events : List Event
  /-- Whether there are serial ports at all. -/
  supported : Bool
  /-- What is known of the ports. -/
  ports : List (String × PortInfo)
  /-- The streams of the ports. -/
  streams : List (String × Streams)
  /-- The ports that were granted. -/
  known : List String
  /-- The answers to further requests for a port. -/
  responses : List Response
  /-- What the loader does. -/
  loader : LoaderScript
  /-- What paths are answered with, unless there is a base. -/
  files : List (String × Option Content)
  /-- What fails at ports. -/
  portPlans : List (PortSpot × Plan PortFault)
  /-- What fails at the loader. -/
  loaderPlans : List (LoaderCall × Plan ProtocolFault)
  /-- What is hooked in. -/
  hooks : List (Point × List (Option (List Step)))
  /-- Where paths start, if it is not made up. -/
  base : Option Base
  /-- The files of the machine. -/
  disk : Disk
  /-- The number of loaders made so far. -/
  tickets : Nat
  /-- The milliseconds waited so far. -/
  ms : Nat

/-- The value of a key, or a default. -/
def valueAt [BEq κ] (table : List (κ × α)) (key : κ) (default : α) : α :=
  ((table.find? (·.1 == key)).map (·.2)).getD default

/-- A table with a key's value replaced, or added at the end. -/
def setAt [BEq κ] (table : List (κ × α)) (key : κ) (value : α) : List (κ × α) :=
  if table.any (·.1 == key) then table.map fun p => if p.1 == key then (p.1, value) else p
  else table ++ [(key, value)]

/-- A table with the values of another put over it. -/
def overlay [BEq κ] (table changes : List (κ × α)) : List (κ × α) :=
  changes.foldl (fun t c => setAt t c.1 c.2) table

namespace World

/-- The world with an event at the end. -/
def emit (w : World) (e : Event) : World :=
  { w with events := w.events ++ [e] }

/-- The world with an entry at the end of the trail. -/
def log (w : World) (variant : Variant) (message : String) : World :=
  { w with
    trail := w.trail.append variant message
    events := w.events ++ [.log ⟨w.trail.next, variant, message⟩] }

/-- The world with what a loader prints. -/
def print (w : World) (call : TerminalCall) : World :=
  call.traces.foldl (fun w line => w.log .trace line) w

/-- A port's streams. -/
def streamsOf (w : World) (id : String) : Streams :=
  valueAt w.streams id .closed

/-- The world with a port's streams replaced. -/
def setStreams (w : World) (id : String) (s : Streams) : World :=
  { w with streams := setAt w.streams id s }

/-- A port at hand. -/
def portAt (w : World) (id : String) : Port :=
  ⟨id, valueAt w.ports id (.bare "")⟩

/-- The station as it is seen. -/
def view (w : World) : View where
  phase := w.desk.phase
  connected := w.desk.isConnected
  info := w.desk.info
  progress := w.desk.progress
  lastError := w.desk.lastError
  generation := w.desk.generation
  baud := w.desk.baud
  trail := w.trail.size
  ms := w.ms
  ports := w.streams

/-- The planned fault of the next call at a spot of a port. -/
def nextPortFault (w : World) (spot : PortSpot) : Option PortFault × World :=
  let (fault, rest) := (valueAt w.portPlans spot .never).next
  (fault, { w with portPlans := setAt w.portPlans spot rest })

/-- The planned fault of the next call of the loader. -/
def nextLoaderFault (w : World) (call : LoaderCall) : Option ProtocolFault × World :=
  let (fault, rest) := (valueAt w.loaderPlans call .never).next
  (fault, { w with loaderPlans := setAt w.loaderPlans call rest })

/-- The steps that are hooked to the next passage of a point. -/
def nextHook (w : World) (point : Point) : List Step × World :=
  match valueAt w.hooks point [] with
  | [] => ([], w)
  | steps :: rest => (steps.getD [], { w with hooks := setAt w.hooks point rest })

end World

end FlashStation.Bench

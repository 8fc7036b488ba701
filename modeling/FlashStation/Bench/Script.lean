/-
# Scripts for a station

A script drives a station on made-up ports and a made-up loader. Its steps call
the station, change what the ports and the loader will do, or look at the
station. Steps can also be hooked to the operations that suspend: they run while
such an operation is under way, so that calls of the station come between.

Key definitions: `Step`, `Scene`, `Point`, `LoaderScript`.
-/
import FlashStation.Station.Connect
import FlashStation.Station.Flash

namespace FlashStation.Bench

/-- The calls of a port that change it. -/
inductive PortCall where
  | opening | cancelReader | releaseReader | closeWriter | releaseWriter | close
  deriving DecidableEq, Repr, Inhabited

/-- The calls of a loader that can fail. -/
inductive LoaderCall where
  | handshake | stub | flashId | flashSize | write | reset
  deriving DecidableEq, Repr, Inhabited

/-- The points at which steps can be hooked in. -/
inductive Point where
  /-- The ports are listed. -/
  | knownPorts
  /-- A port is asked for. -/
  | requestPort
  /-- A port is called. -/
  | port (call : PortCall)
  /-- The loader is called. -/
  | loader (call : LoaderCall)
  /-- Bytes are fetched. -/
  | fetch
  deriving DecidableEq, Repr, Inhabited

/-- Which calls fail with what: all of them, or one after the other. -/
inductive Plan (φ : Type) where
  /-- No call. -/
  | never
  /-- Every call. -/
  | always (fault : φ)
  /-- Each call as the next element says, and then none. -/
  | listed (faults : List (Option φ))
  deriving Repr, Inhabited

/-- What the next call fails with, and the plan for those after it. -/
def Plan.next : Plan φ → Option φ × Plan φ
  | .never => (none, .never)
  | .always f => (some f, .always f)
  | .listed [] => (none, .listed [])
  | .listed (f :: rest) => (f, .listed rest)

/-- A place in which a port's faults are planned. -/
inductive PortSpot where
  /-- Listing the ports. -/
  | knownPorts
  /-- A call of a port. -/
  | call (id : String) (call : PortCall)
  deriving DecidableEq, Repr, Inhabited

/-- What a request for a port is answered with. -/
inductive Response where
  /-- This port. -/
  | grant (id : String)
  /-- The first of these ports that passes the filters. -/
  | attached (ids : List String)
  /-- A fault. -/
  | refuse (fault : SelectFault)
  deriving DecidableEq, Repr, Inhabited

/-- What a path is answered with. -/
inductive Content where
  /-- These bytes. -/
  | data (bytes : List UInt8)
  /-- A fault. -/
  | fault (fault : FetchFault)
  deriving DecidableEq, Repr, Inhabited

/-- What a query of the loader answers. -/
inductive Answered (α : Type) where
  /-- This value. -/
  | value (a : α)
  /-- What a loader says that cannot do it. -/
  | missing
  deriving DecidableEq, Repr, Inhabited

mutual

/-- A step of a script. -/
inductive Step where
  /-- Connect. -/
  | connect (baud : Option UInt32)
  /-- Disconnect. -/
  | disconnect
  /-- Resolve a choice, then flash what it resolves to. -/
  | flash (choice : Choice)
  /-- Flash a choice. -/
  | flashChoice (choice : Choice)
  /-- Bring a port back to the closed state. -/
  | reclaim (id context : String) (delays : Option Delays)
  /-- Add an entry to the trail. -/
  | log (variant : Variant) (message : String)
  /-- Remove all entries of the trail. -/
  | clearLog
  /-- Count entries of the trail. -/
  | count (variant : Variant)
  /-- Look at the station. -/
  | look
  /-- Answer further requests for a port. -/
  | respond (responses : List Response)
  /-- Replace the ports that are known. -/
  | known (ids : List String)
  /-- Put a port's streams into a state. -/
  | port (id : String) (streams : Streams)
  /-- Say whether there are serial ports at all. -/
  | supported (value : Bool)
  /-- Change what the loader does. -/
  | loader (changes : List LoaderChange)
  /-- Change what fails. -/
  | fail (ports : List (PortSpot × Plan PortFault)) (loader : List (LoaderCall × Plan ProtocolFault))
  /-- Change what paths are answered with. -/
  | files (files : List (String × Option Content))
  /-- Change what is hooked in. -/
  | hooks (hooks : List (Point × List (Option (List Step))))

/-- Something that the loader does while it writes. -/
inductive WriteStep where
  /-- It reports on the file that it writes. -/
  | report (written total : UInt64)
  /-- Steps run meanwhile. -/
  | steps (steps : List Step)

/-- A change of what the loader does. -/
inductive LoaderChange where
  /-- The chip's name. -/
  | chip (name : Option String)
  /-- The flash chip's identifier. -/
  | flashId (id : Answered UInt32)
  /-- The flash chip's size. -/
  | flashSize (size : Answered Nat)
  /-- Whether it can load the flasher. -/
  | stub (answer : Answered Unit)
  /-- Whether it can reset the board. -/
  | reset (answer : Answered Unit)
  /-- Whether it has the control lines. -/
  | hardReset (has : Bool)
  /-- Whether the handshake opens the port. -/
  | opens (value : Bool)
  /-- Whether the handshake locks the stream from the device. -/
  | locksReadable (value : Bool)
  /-- Whether the handshake locks the stream to the device. -/
  | locksWritable (value : Bool)
  /-- What it prints during the handshake. -/
  | terminal (calls : List TerminalCall)
  /-- What it does while it writes. -/
  | writes (steps : List WriteStep)

end

instance : Inhabited Step := ⟨.look⟩

instance : Inhabited WriteStep := ⟨.report 0 0⟩

instance : Inhabited LoaderChange := ⟨.chip none⟩

/-- What the loader does. -/
structure LoaderScript where
  /-- The chip's name. -/
  chip : Option String
  /-- The flash chip's identifier. -/
  flashId : Answered UInt32
  /-- The flash chip's size. -/
  flashSize : Answered Nat
  /-- Whether it can load the flasher. -/
  stub : Answered Unit
  /-- Whether it can reset the board. -/
  reset : Answered Unit
  /-- Whether it has the control lines. -/
  hardReset : Bool
  /-- Whether the handshake opens the port. -/
  opens : Bool
  /-- Whether the handshake locks the stream from the device. -/
  locksReadable : Bool
  /-- Whether the handshake locks the stream to the device. -/
  locksWritable : Bool
  /-- What it prints during the handshake. -/
  terminal : List TerminalCall
  /-- What it does while it writes. -/
  writes : List WriteStep

/-- A loader that does all that it is asked. -/
def LoaderScript.default : LoaderScript where
  chip := some "ESP32-S3"
  flashId := .value 1458270
  flashSize := .value 8388608
  stub := .value ()
  reset := .value ()
  hardReset := true
  opens := true
  locksReadable := true
  locksWritable := false
  terminal := []
  writes := []

/-- A loader's script with a change. -/
def LoaderScript.change (s : LoaderScript) : LoaderChange → LoaderScript
  | .chip v => { s with chip := v }
  | .flashId v => { s with flashId := v }
  | .flashSize v => { s with flashSize := v }
  | .stub v => { s with stub := v }
  | .reset v => { s with reset := v }
  | .hardReset v => { s with hardReset := v }
  | .opens v => { s with opens := v }
  | .locksReadable v => { s with locksReadable := v }
  | .locksWritable v => { s with locksWritable := v }
  | .terminal v => { s with terminal := v }
  | .writes v => { s with writes := v }

/-- The word for a step in the record of events. -/
def Step.word : Step → String
  | .connect _ => "connect"
  | .disconnect => "disconnect"
  | .flash _ => "flash"
  | .flashChoice _ => "flash_selection"
  | .reclaim _ _ _ => "reclaim"
  | .log _ _ => "log"
  | .clearLog => "clear_log"
  | .count _ => "count"
  | .look => "look"
  | .respond _ => "respond"
  | .known _ => "known"
  | .port _ _ => "port"
  | .supported _ => "supported"
  | .loader _ => "loader"
  | .fail _ _ => "fail"
  | .files _ => "files"
  | .hooks _ => "hooks"

/-! ### How much is hooked in -/

mutual

/-- The number of lists of steps inside a step. -/
def Step.lists : Step → Nat
  | .loader changes => changeLists changes
  | .hooks hooks => hookLists hooks
  | _ => 0

/-- The number of lists of steps inside some steps. -/
def stepLists : List Step → Nat
  | [] => 0
  | s :: rest => s.lists + stepLists rest

/-- The number of lists of steps in changes of the loader. -/
def changeLists : List LoaderChange → Nat
  | [] => 0
  | .writes steps :: rest => writeLists steps + changeLists rest
  | _ :: rest => changeLists rest

/-- The number of lists of steps that run while the loader writes. -/
def writeLists : List WriteStep → Nat
  | [] => 0
  | .steps steps :: rest => 1 + stepLists steps + writeLists rest
  | .report _ _ :: rest => writeLists rest

/-- The number of lists of steps that are hooked in. -/
def hookLists : List (Point × List (Option (List Step))) → Nat
  | [] => 0
  | (_, lists) :: rest => pointLists lists + hookLists rest

/-- The number of lists of steps that are hooked in at a point. -/
def pointLists : List (Option (List Step)) → Nat
  | [] => 0
  | none :: rest => pointLists rest
  | some steps :: rest => 1 + stepLists steps + pointLists rest

end

end FlashStation.Bench

/-
# What a station is and knows

A station serves one board at a time. It is idle, connecting, connected or
flashing; when it is connected it knows what the board told, any part of which
may be missing. Its settings are delays, baud rates and the filters that a port
has to pass.

Key definitions: `Phase`, `DeviceInfo`, `Config`.
-/
import FlashStation.Serial.Board
import FlashStation.Text.Rounding

namespace FlashStation

/-- What the station is doing. -/
inductive Phase where
  /-- There is no session. -/
  | idle
  /-- A connect is under way. -/
  | connecting
  /-- There is a session. -/
  | connected
  /-- A flash uses the session. -/
  | flashing
  deriving DecidableEq, Repr, Inhabited

/-- The word for a phase. -/
def Phase.text : Phase → String
  | .idle => "idle"
  | .connecting => "connecting"
  | .connected => "connected"
  | .flashing => "flashing"

/-- What a connect learned about the board. -/
structure DeviceInfo where
  /-- The chip's name. -/
  chip : Option String
  /-- The flash chip's identifier, in hexadecimal. -/
  flashId : Option String
  /-- The flash chip's size in bytes. -/
  flashSize : Option Nat
  /-- The port it is connected to. -/
  port : Option PortInfo
  deriving DecidableEq, Repr, Inhabited

namespace DeviceInfo

/-- The chip's name for people. -/
def chipText (d : DeviceInfo) : String :=
  d.chip.getD "Unknown"

/-- The number of bytes of the unit of the flash chip's size. -/
def bytesPerUnit : Nat := 1048576

/-- The flash chip's size for people, in units of 2^20 bytes. -/
def sizeText (d : DeviceInfo) : String :=
  match d.flashSize with
  | none | some 0 => "Unknown"
  | some bytes => Text.tenths (Text.toDouble bytes) bytesPerUnit ++ " MB"

/-- The JSON form. -/
def toJson (d : DeviceInfo) : Json :=
  .obj [("chip", .ofOption .str d.chip), ("flashId", .ofOption .str d.flashId),
    ("flashSizeBytes", .ofOption .num d.flashSize),
    ("portInfo", .ofOption PortInfo.toJson d.port)]

end DeviceInfo

/-- The text of a flash chip's identifier: six hexadecimal digits or more. -/
def flashIdText (id : UInt32) : String :=
  "0x" ++ Text.hexLower 6 id.toNat

/-- The baud rates that are offered for flashing. -/
def supportedBauds : List UInt32 :=
  [460800, 921600, 1500000]

/-- Whether a baud rate is offered for flashing. -/
def isSupportedBaud (baud : UInt32) : Bool :=
  supportedBauds.contains baud

/-- The station's settings; delays are in milliseconds. -/
structure Config where
  /-- How long to wait after a lock was given up. -/
  settle : Nat
  /-- How long to wait after a port was closed. -/
  closeSettle : Nat
  /-- How long to wait between an old session and a new attempt. -/
  supersede : Nat
  /-- The baud rate at which the boot loader answers first. -/
  romBaud : UInt32
  /-- The baud rate for flashing if none is asked for. -/
  defaultBaud : UInt32
  /-- The filters of the first request for a port. -/
  filters : List UsbFilter
  deriving DecidableEq, Repr, Inhabited

namespace Config

/-- The settings to start from. -/
def default : Config where
  settle := 100
  closeSettle := 150
  supersede := 200
  romBaud := 115200
  defaultBaud := 921600
  filters := vendorFilters []

/-- The settings with further vendors let through. -/
def withVendors (c : Config) (vendors : List UInt16) : Config :=
  { c with filters := addVendors c.filters vendors }

end Config

end FlashStation

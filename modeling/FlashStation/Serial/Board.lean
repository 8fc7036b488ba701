/-
# Boards and the ports they show up at

The vendor number of a USB device tells which kind of board or bridge it is.
Of several ports the most likely board is the first of the best rank: a native
port of the chip's maker, then the bridges most boards carry, then the other
known vendors, then all else.

Key definitions: `BoardKind`, `DetectedPort`, `vendorFilters`, `bestCandidate`.
-/
import FlashStation.Serial.Identity

namespace FlashStation

/-- Kinds of boards and bridges, by vendor. -/
inductive BoardKind where
  /-- The chip's own USB port. -/
  | espressif
  /-- Adafruit boards. -/
  | adafruit
  /-- The CP210x bridge. -/
  | cp210x
  /-- The CH34x bridge. -/
  | ch34x
  /-- The FTDI bridge. -/
  | ftdi
  /-- Arduino boards. -/
  | arduino
  /-- Raspberry Pi boards. -/
  | raspberryPi
  /-- Anything else. -/
  | unknown
  deriving DecidableEq, Repr, Inhabited

/-- The vendors that boards are known to have, in the order of the selection filters. -/
def knownVendors : List (UInt16 × BoardKind) :=
  [(0x303A, .espressif), (0x239A, .adafruit), (0x10C4, .cp210x), (0x1A86, .ch34x),
   (0x0403, .ftdi), (0x2341, .arduino), (0x2E8A, .raspberryPi)]

namespace BoardKind

/-- The kind that a vendor number tells. -/
def ofVendor (vid : UInt16) : BoardKind :=
  ((knownVendors.find? (·.1 == vid)).map (·.2)).getD .unknown

/-- The kind's name for people. -/
def name : BoardKind → String
  | .espressif => "Espressif USB"
  | .adafruit => "Adafruit"
  | .cp210x => "CP210x"
  | .ch34x => "CH34x"
  | .ftdi => "FTDI"
  | .arduino => "Arduino"
  | .raspberryPi => "Raspberry Pi"
  | .unknown => "Unknown"

/-- The kind's short tag, used in the diagnostic log. -/
def tag : BoardKind → String
  | .espressif => "Espressif"
  | .adafruit => "Adafruit"
  | .cp210x => "Cp210x"
  | .ch34x => "Ch34x"
  | .ftdi => "Ftdi"
  | .arduino => "Arduino"
  | .raspberryPi => "RaspberryPi"
  | .unknown => "Unknown"

/-- Whether the vendor is a known one. -/
def isKnown (k : BoardKind) : Bool :=
  k != .unknown

/-- Whether a port of this kind is taken before those of other known vendors. -/
def isPreferred : BoardKind → Bool
  | .espressif | .cp210x | .ch34x => true
  | _ => false

end BoardKind

/-- The filters for known vendors and some more. -/
def vendorFilters (extra : List UInt16) : List UsbFilter :=
  addVendors (knownVendors.map fun v => .ofVendor v.1) extra

/-- A port that was found on the host. -/
structure DetectedPort where
  /-- What is known of it. -/
  info : PortInfo
  /-- Its kind of board. -/
  kind : BoardKind
  deriving DecidableEq, Repr, Inhabited

namespace DetectedPort

/-- A port with the kind that its vendor number tells. -/
def ofInfo (info : PortInfo) : DetectedPort where
  info
  kind := (info.vid.map BoardKind.ofVendor).getD .unknown

/-- Whether the port's vendor is a known one. -/
def isAllowed (p : DetectedPort) : Bool :=
  p.kind.isKnown

/-- One line on a port. -/
def label (p : DetectedPort) : String :=
  let device :=
    if p.kind.isKnown then s!" [{p.kind.name}]"
    else
      match p.info.vid, p.info.pid with
      | some vid, some pid => s!" [VID:{Text.hexUpper 4 vid.toNat} PID:{Text.hexUpper 4 pid.toNat}]"
      | _, _ => ""
  let product := (p.info.product.map fun t => s!" - {t}").getD ""
  s!"{p.info.name}{device}{product}"

end DetectedPort

/-- The index of the most likely board among some ports. -/
def bestCandidate (ports : List DetectedPort) : Option Nat :=
  (ports.findIdx? (·.kind == .espressif)).or
    ((ports.findIdx? (·.kind.isPreferred)).or
      ((ports.findIdx? (·.kind.isKnown)).or
        (if ports.isEmpty then none else some 0)))

end FlashStation

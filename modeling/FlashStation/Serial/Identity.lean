/-
# What is known of a port, and filters on it

A port has a name and, if it belongs to a USB device, the device's vendor and
product numbers and texts. A filter asks for a vendor, and for one of its
products if it says so; a list of filters lets through what one of them lets
through, and an empty list everything.

Key definitions: `PortInfo`, `UsbFilter`, `passesFilters`.
-/
import FlashStation.Json.Value

namespace FlashStation

/-- What is known of a port. -/
structure PortInfo where
  /-- Its name, which is the path of its device node. -/
  name : String
  /-- The vendor number of the USB device. -/
  vid : Option UInt16
  /-- The product number of the USB device. -/
  pid : Option UInt16
  /-- The manufacturer's text. -/
  manufacturer : Option String
  /-- The product's text. -/
  product : Option String
  /-- The serial number's text. -/
  serial : Option String
  deriving DecidableEq, Repr, Inhabited

/-- Of a port nothing is known but its name. -/
def PortInfo.bare (name : String) : PortInfo :=
  ⟨name, none, none, none, none, none⟩

/-- A vendor or product number in messages. -/
def usbNumberText : Option UInt16 → String
  | none => "n/a"
  | some n => "0x" ++ Text.hexLower 4 n.toNat

/-- A port's numbers in messages. -/
def PortInfo.describe (p : PortInfo) : String :=
  s!"VID {usbNumberText p.vid} PID {usbNumberText p.pid}"

/-- A port's JSON form. -/
def PortInfo.toJson (p : PortInfo) : Json :=
  .obj [("name", .str p.name),
    ("vid", .ofOption (fun n => .num n.toNat) p.vid),
    ("pid", .ofOption (fun n => .num n.toNat) p.pid),
    ("manufacturer", .ofOption .str p.manufacturer),
    ("product", .ofOption .str p.product),
    ("serialNumber", .ofOption .str p.serial)]

/-- A wish for a kind of USB device. -/
structure UsbFilter where
  /-- The vendor number. -/
  vendor : UInt16
  /-- The product number, or any product of the vendor. -/
  product : Option UInt16
  deriving DecidableEq, Repr, Inhabited

namespace UsbFilter

/-- Any product of a vendor. -/
def ofVendor (vendor : UInt16) : UsbFilter :=
  ⟨vendor, none⟩

/-- Whether a device with these numbers passes. -/
def matches? (f : UsbFilter) (vid pid : Option UInt16) : Bool :=
  vid == some f.vendor &&
    match f.product with
    | none => true
    | some want => pid == some want

end UsbFilter

/-- Whether a device with these numbers passes a list of filters. -/
def passesFilters (filters : List UsbFilter) (vid pid : Option UInt16) : Bool :=
  filters.isEmpty || filters.any fun f => f.matches? vid pid

/-- The filters, and one for each further vendor that none of them names yet. -/
def addVendors (filters : List UsbFilter) (vendors : List UInt16) : List UsbFilter :=
  vendors.foldl (fun fs v => if fs.any (·.vendor == v) then fs else fs ++ [.ofVendor v]) filters

end FlashStation

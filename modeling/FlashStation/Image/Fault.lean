/-
# Faults of images and of their choice

A choice of what to write may be one that cannot be written, which is found
before anything is read; and what was chosen may not be had.

Key definitions: `ChoiceFault`, `FetchFault`.
-/
import FlashStation.Json.Lexis

namespace FlashStation

/-- Why a choice cannot be written. -/
inductive ChoiceFault where
  /-- No package was picked from the catalog. -/
  | noPackage
  /-- The package of this name has no images. -/
  | noImages (name : String)
  /-- No file was picked. -/
  | noFile
  /-- An address is no number in range. -/
  | badAddress (value : String) (fault : Text.NumeralFault)
  /-- A parameter has a value that is not on offer. -/
  | badParam (param value : String)
  deriving DecidableEq, Repr, Inhabited

/-- The text of a fault of choice. -/
def ChoiceFault.message : ChoiceFault → String
  | .noPackage => "Select a firmware package to continue."
  | .noImages name => s!"Firmware package '{name}' does not define any images."
  | .noFile => "Choose a firmware .bin file to flash."
  | .badAddress value fault => s!"Invalid flash address '{value}': {fault.message}"
  | .badParam param value => s!"Unsupported {param} '{value}'"

/-- The causes of a fault of choice. -/
def ChoiceFault.causes : ChoiceFault → List String
  | .badAddress _ fault => [fault.message]
  | _ => []

/-- Why a file could not be read. -/
inductive ReadFault where
  /-- There is no such file. -/
  | notFound (message : String)
  /-- Anything else that the system says. -/
  | other (message : String)
  deriving DecidableEq, Repr, Inhabited

/-- What the system says. -/
def ReadFault.message : ReadFault → String
  | .notFound m => m
  | .other m => m

/-- Why bytes could not be fetched, or were not a manifest. -/
inductive FetchFault where
  /-- The server answered with a status other than success. -/
  | status (location : String) (code : Nat)
  /-- The server gave no answer. -/
  | http (location : String)
  /-- A file could not be read. -/
  | io (path : String) (fault : ReadFault)
  /-- A location makes no sense. -/
  | invalidLocation (location reason : String)
  /-- The bytes are no manifest. -/
  | manifest (fault : Json.Fault)
  deriving DecidableEq, Repr, Inhabited

/-- The mark that stands in a message for the details of a fault in a JSON document. -/
def Json.Fault.mark : String := "<json>"

/-- The mark that stands in a message for the details of a failed request. -/
def httpMark : String := "<http>"

/-- The text of a fault of fetching. -/
def FetchFault.message : FetchFault → String
  | .status location code => s!"Failed to fetch {location} (HTTP {Text.decimal code})"
  | .http location => s!"Failed to fetch {location}: {httpMark}"
  | .io path fault => s!"Failed to read {path}: {fault.message}"
  | .invalidLocation location reason => s!"Invalid location '{location}': {reason}"
  | .manifest _ => s!"Invalid manifest: {Json.Fault.mark}"

/-- The causes of a fault of fetching. -/
def FetchFault.causes : FetchFault → List String
  | .http _ => [httpMark]
  | .io _ fault => [fault.message]
  | .manifest _ => [Json.Fault.mark]
  | _ => []

end FlashStation

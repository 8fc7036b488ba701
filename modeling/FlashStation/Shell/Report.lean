/-
# What a command reports

A command that works reports a document for other programs or lines for people,
never both. One that fails has a fault with a text, the texts of its causes and
an exit code, which tells a call that could not be obeyed and a choice that the
operator left from all else.

Key definitions: `Report`, `CommandFault`, `CommandFault.exitCode`,
`CommandFault.line`.
-/
import FlashStation.Serial.Fault
import FlashStation.Image.Fault
import FlashStation.Json.Value
import FlashStation.Text.Pieces

namespace FlashStation

/-- What a command reports that worked. -/
inductive Report where
  /-- A document on the standard output. -/
  | document (data : Json)
  /-- Lines on the standard error. -/
  | lines (list : List String)
  deriving Inhabited, Repr

namespace Report

/-- A report of data that other programs read. -/
def ofData (data : List (String × Json)) : Report :=
  .document (.obj [("data", .obj data), ("ok", .bool true)])

/-- What goes to the standard output. -/
def out : Report → String
  | .document data => data.indented ++ "\n"
  | .lines _ => ""

/-- What goes to the standard error. -/
def err : Report → String
  | .document _ => ""
  | .lines list => String.join (list.map (· ++ "\n"))

end Report

/-- Why a command failed. -/
inductive CommandFault where
  /-- The base of the catalog makes no sense. -/
  | badBase (base : String) (fault : FetchFault)
  /-- There is no catalog to look a package up in. -/
  | noCatalog (warning : String)
  /-- The catalog has no such package. -/
  | unknownPackage (id : String)
  /-- What was chosen cannot be written. -/
  | choice (fault : ChoiceFault)
  /-- What was chosen cannot be had. -/
  | payload (fault : FetchFault)
  /-- There is no port. -/
  | noPorts
  /-- There are several ports and nobody to ask. -/
  | severalPorts
  /-- The operator picked no port. -/
  | cancelled
  /-- The port could not be asked for. -/
  | selection (fault : SelectFault)
  /-- The port of this name cannot be opened. -/
  | busy (name : String)
  /-- The port of this name cannot be brought back to the closed state. -/
  | release (name : String) (fault : ReclaimFault)
  deriving DecidableEq, Repr, Inhabited

namespace CommandFault

/-- A fault's text and those of its causes. -/
def texts : CommandFault → List String
  | .badBase base fault => s!"Invalid catalog base '{base}'" :: fault.message :: fault.causes
  | .noCatalog warning => [warning]
  | .unknownPackage id =>
    [s!"Unknown package '{id}'. Run \x60m4gflash catalog\x60 to list packages."]
  | .choice fault => [fault.message]
  | .payload fault => "Failed to prepare firmware payload" :: fault.message :: fault.causes
  | .noPorts => ["No serial ports found. Connect a board or pass --port."]
  | .severalPorts =>
    ["Multiple serial ports found; pass --port to choose one in non-interactive mode."]
  | .cancelled => ["Port selection cancelled."]
  | .selection fault => fault.message :: fault.causes
  | .busy name => [s!"{name} is busy or unavailable"]
  | .release name fault => s!"Failed to release {name}" :: fault.message :: fault.causes

/-- The exit code of a call that could not be obeyed. -/
def misuseCode : Nat := 2

/-- A fault's exit code. -/
def exitCode : CommandFault → Nat
  | .noCatalog _ | .unknownPackage _ | .choice _ | .noPorts | .severalPorts => misuseCode
  | .cancelled => 130
  | .badBase _ _ | .payload _ | .selection _ | .busy _ | .release _ _ => 1

/-- The line that tells a fault. -/
def line (f : CommandFault) : String :=
  "Error: " ++ Text.join ": " f.texts

end CommandFault

end FlashStation

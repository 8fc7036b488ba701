/-
# Commands on images

The packages of the catalog are listed, and it is planned what a choice would
write, without a device.

Key definitions: `listPackages`, `PlanSource.choice`, `plan`.
-/
import FlashStation.Catalog
import FlashStation.Shell.Access
import FlashStation.Shell.Arguments
import FlashStation.Shell.Report

namespace FlashStation

/-- Loads the catalog below the base that a text names. -/
def loadCatalog (base : String) : Program Shell (Except CommandFault Catalog) := do
  match Base.ofText base with
  | .error fault => pure (.error (.badBase base fault))
  | .ok root => do pure (.ok (← Shell.below root Catalog.load))

/-! ### Listing -/

/-- Whether a package has the identifier of the first one. -/
def isMarked (catalog : Catalog) (p : Package) : Bool :=
  catalog.first?.map (·.id) == some p.id

/-- An image as data. -/
def imageData (i : Image) : Json :=
  .obj [("address", .str i.address), ("path", .str i.path)]

/-- A package as data. -/
def packageData (marked : Bool) (p : Package) : Json :=
  .obj [("chipFamily", .ofOption .str p.chipFamily),
    ("default", .bool marked),
    ("description", .ofOption .str p.description),
    ("id", .str p.id),
    ("images", .arr (p.images.map imageData)),
    ("name", .str p.name)]

/-- A catalog as data. -/
def catalogData (catalog : Catalog) : List (String × Json) :=
  [("defaultBaud", .ofOption (fun b => .num b.toNat) catalog.defaultBaud),
    ("packages", .arr (catalog.packages.map fun p => packageData (isMarked catalog p) p)),
    ("warning", .ofOption .str catalog.warning)]

/-- A package's lines in the list. -/
def packageLines (marked : Bool) (p : Package) : List String :=
  let mark := if marked then " (default)" else ""
  s!"  • {p.id} - {p.name}{mark}" ::
    ((p.description.map fun d => s!"      {d}").toList ++
      p.images.map fun i => s!"      {i.path} @ {i.address}")

/-- A catalog's list. -/
def catalogLines (catalog : Catalog) : List String :=
  match catalog.warning with
  | some warning => [s!"⚠ {warning}"]
  | none =>
    "Firmware catalog:" ::
      ((if catalog.packages.isEmpty then ["  The manifest lists no packages"] else []) ++
        catalog.packages.flatMap (fun p => packageLines (isMarked catalog p) p) ++
        match catalog.defaultBaud with
        | none => []
        | some baud => ["", s!"  Default baud: {Text.decimal baud.toNat}"])

/-- Lists the packages of the catalog. -/
def listPackages (base : String) (json : Bool) : Program Shell (Except CommandFault Report) := do
  match ← loadCatalog base with
  | .error fault => pure (.error fault)
  | .ok catalog =>
    pure (.ok (if json then .ofData (catalogData catalog) else .lines (catalogLines catalog)))

/-! ### Planning -/

/-- The choice that is to be planned. -/
def PlanSource.choice (base : String) : PlanSource → Program Shell (Except CommandFault Choice)
  | .file picked => pure (.ok (.custom picked))
  | .package id => do
    match ← loadCatalog base with
    | .error fault => pure (.error fault)
    | .ok catalog =>
      match catalog.warning, catalog.find? id with
      | some warning, _ => pure (.error (.noCatalog warning))
      | none, none => pure (.error (.unknownPackage id))
      | none, some found => pure (.ok (.catalog (some found)))

/-- What a choice writes, with its payload. -/
def planChoice (base : String) (choice : Choice) :
    Program Shell (Except CommandFault (Source × Payload)) := do
  match choice.resolve with
  | .error fault => pure (.error (.choice fault))
  | .ok source =>
    match Base.ofText base with
    | .error fault => pure (.error (.badBase base fault))
    | .ok root =>
      match ← Shell.below root (materialize source) with
      | .error fault => pure (.error (.payload fault))
      | .ok payload => pure (.ok (source, payload))

/-- The files of a payload as data. -/
def fileData (file : FlashFile × Nat) : Json :=
  .obj [("address", .str (addressText file.1.address)), ("index", .num file.2),
    ("size", .num file.1.data.length)]

/-- Parameters as data. -/
def FlashParams.data (p : FlashParams) : Json :=
  .obj [("eraseAll", .bool p.eraseAll), ("flashFreq", p.freq.toJson),
    ("flashMode", p.mode.toJson), ("flashSize", p.size.toJson)]

/-- A plan as data. -/
def planData (source : Source) (payload : Payload) : List (String × Json) :=
  [("files", .arr (payload.files.zipIdx.map fileData)),
    ("params", payload.params.data),
    ("source", .str source.label),
    ("totalBytes", .num payload.totalBytes)]

/-- A file's line in a plan. -/
def fileLine (file : FlashFile × Nat) : String :=
  s!"  [{Text.decimal file.2}] {addressColumn file.1.address} " ++
    s!"({Text.decimal file.1.data.length} bytes)"

/-- The line on the parameters in a plan. -/
def FlashParams.line (p : FlashParams) : String :=
  let erase := if p.eraseAll then "yes" else "no"
  s!"  flash size: {p.size.text}, mode: {p.mode.text}, freq: {p.freq.text}, erase all: {erase}"

/-- A plan's lines. -/
def planLines (quiet : Bool) (source : Source) (payload : Payload) : List String :=
  (if quiet then [] else [s!"📦 {source.label}"]) ++
    payload.params.line :: (payload.files.zipIdx.map fileLine ++
      [s!"✓ {Text.decimal payload.files.length} file(s), " ++
        s!"{Text.decimal payload.totalBytes} bytes total"])

/-- Says what would be written. -/
def plan (base : String) (wanted : PlanSource) (json quiet : Bool) :
    Program Shell (Except CommandFault Report) := do
  match ← wanted.choice base with
  | .error fault => pure (.error fault)
  | .ok choice =>
    match ← planChoice base choice with
    | .error fault => pure (.error fault)
    | .ok (source, payload) =>
      pure (.ok (if json then .ofData (planData source payload)
        else .lines (planLines quiet source payload)))

end FlashStation

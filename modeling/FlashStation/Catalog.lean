/-
# The catalog

The catalog is the manifest at a fixed path below the base, or a warning that
says why there is none. Its absence is no failure, since a file can still be
written without it.

Key definitions: `Catalog`, `Catalog.load`, `Catalog.find?`, `Catalog.first?`.
-/
import FlashStation.Image.Payload

namespace FlashStation

/-- Where the manifest is, below the base. -/
def manifestPath : String := "firmware/manifest.json"

/-- A catalog. -/
structure Catalog where
  /-- The manifest, if it could be loaded. -/
  manifest : Option Manifest
  /-- Why it could not be loaded. -/
  warning : Option String
  deriving DecidableEq, Repr, Inhabited

/-- Whether a fault means that there is nothing at the place. -/
def FetchFault.isAbsence : FetchFault → Bool
  | .status _ code => code == 404
  | .io _ (.notFound _) => true
  | _ => false

/-- What to tell when a manifest could not be loaded. -/
def FetchFault.warning (fault : FetchFault) (location : String) : String :=
  if fault.isAbsence then
    s!"Firmware manifest was not found. Prebuilt options will be hidden until you add {location}."
  else
    match fault with
    | .manifest _ => s!"Firmware manifest at {location} is invalid ({Json.Fault.mark}). " ++
        "Prebuilt options will be hidden until it is fixed."
    | _ => s!"Firmware manifest could not be loaded: {fault.message}. " ++
        "Prebuilt options will be hidden."

namespace Catalog

/-- The catalog of a manifest. -/
def ofManifest (m : Manifest) : Catalog :=
  ⟨some m, none⟩

/-- The catalog without a manifest. -/
def unavailable (fault : FetchFault) (location : String) : Catalog :=
  ⟨none, some (fault.warning location)⟩

/-- Loads the catalog below the base. -/
def load : Program Supply Catalog := do
  match (← Supply.fetch manifestPath).bind Manifest.read with
  | .ok m => pure (ofManifest m)
  | .error fault =>
    let location ← Supply.locate manifestPath
    Program.perform (S := Supply) (.note ⟨.warn, .catalog,
      s!"Failed to load firmware manifest from {location}: {fault.message}"⟩)
    pure (unavailable fault location)

/-- The packages; none without a manifest. -/
def packages (c : Catalog) : List Package :=
  (c.manifest.map (·.packages)).getD []

/-- The baud rate that is recommended. -/
def defaultBaud (c : Catalog) : Option UInt32 :=
  c.manifest.bind (·.defaultBaud)

/-- The package to begin with: the first. -/
def first? (c : Catalog) : Option Package :=
  c.packages.head?

/-- The first package with an identifier. -/
def find? (c : Catalog) (id : String) : Option Package :=
  c.packages.find? (·.id == id)

end Catalog

end FlashStation

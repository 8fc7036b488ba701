/-
# The bytes that are written

A source becomes a payload when its images have been fetched, in the order of
writing and each once. It is all or nothing: the first image that cannot be had
ends the fetching.

Key definitions: `SupplyOp`, `Payload`, `materialize`.
-/
import FlashStation.Image.Choice
import FlashStation.Note
import FlashStation.Program

namespace FlashStation

/-- Ways to get bytes, and the records. -/
inductive SupplyOp where
  /-- Where a path leads to, for messages. -/
  | locate (path : String)
  /-- The bytes at a path below the base. -/
  | fetch (path : String)
  /-- The bytes of a file. -/
  | readLocal (path : String)
  /-- Add an entry to the trail. -/
  | log (variant : Variant) (message : String)
  /-- Add a note to the diagnostic log. -/
  | note (note : Note)
  deriving DecidableEq, Repr

/-- The answers of the ways to get bytes. -/
@[reducible] def SupplyOp.Answer : SupplyOp → Type
  | .locate _ => String
  | .fetch _ | .readLocal _ => Except FetchFault (List UInt8)
  | .log _ _ | .note _ => Unit

/-- Whether other programs may run while an operation is under way. -/
def SupplyOp.suspends : SupplyOp → Bool
  | .fetch _ | .readLocal _ => true
  | .locate _ | .log _ _ | .note _ => false

/-- The operations that get bytes. -/
@[reducible] def Supply : Signature := ⟨SupplyOp, SupplyOp.Answer⟩

namespace Supply

/-- Where a path leads to. -/
def locate (path : String) : Program Supply String :=
  .perform (S := Supply) (.locate path)

/-- The bytes at a path below the base. -/
def fetch (path : String) : Program Supply (Except FetchFault (List UInt8)) :=
  .perform (S := Supply) (.fetch path)

/-- The bytes of a file. -/
def readLocal (path : String) : Program Supply (Except FetchFault (List UInt8)) :=
  .perform (S := Supply) (.readLocal path)

/-- Adds a trace to the trail. -/
def trace (message : String) : Program Supply Unit :=
  .perform (S := Supply) (.log .trace message)

end Supply

/-- Bytes and the flash address they go to. -/
structure FlashFile where
  /-- The bytes. -/
  data : List UInt8
  /-- The flash address. -/
  address : UInt32
  deriving DecidableEq, Repr, Inhabited

/-- What is written: files in the order of writing, and the parameters. -/
structure Payload where
  /-- The files. -/
  files : List FlashFile
  /-- The parameters. -/
  params : FlashParams
  deriving DecidableEq, Repr, Inhabited

/-- The number of all bytes of a payload. -/
def Payload.totalBytes (p : Payload) : Nat :=
  p.files.foldr (fun f n => f.data.length + n) 0

/-- Fetches images in order, up to the first that cannot be had. -/
def fetchImages : List PlacedImage → Program Supply (Except FetchFault (List FlashFile))
  | [] => pure (.ok [])
  | image :: rest => do
    let location ← Supply.locate image.path
    Supply.trace s!"Fetching {location}…"
    match ← Supply.fetch image.path with
    | .error fault => pure (.error fault)
    | .ok data =>
      match ← fetchImages rest with
      | .error fault => pure (.error fault)
      | .ok files => pure (.ok (⟨data, image.address⟩ :: files))

/-- Fetches what a source writes. -/
def materialize : Source → Program Supply (Except FetchFault Payload)
  | .catalog _ images params => do
    match ← fetchImages images with
    | .error fault => pure (.error fault)
    | .ok files => pure (.ok ⟨files, params⟩)
  | .custom file address params => do
    Supply.trace s!"Reading {file}…"
    match ← Supply.readLocal file with
    | .error fault => pure (.error fault)
    | .ok data => pure (.ok ⟨[⟨data, address⟩], params⟩)

end FlashStation

/-
# Choosing what to write

An operator picks a package of the catalog, or a file with an address and
parameters. A choice that can be written becomes a source: addresses are read,
parameters are fixed, and nothing has been fetched. Of several faults the first
is reported; for a file, its absence comes before its parameters and these
before its address.

Key definitions: `Choice`, `Source`, `Choice.resolve`.
-/
import FlashStation.Image.Package
import FlashStation.Image.Address

namespace FlashStation

/-- A file that was picked, with where and how to write it. -/
structure CustomFile where
  /-- The file, if one was picked. -/
  file : Option String
  /-- The flash address as typed. -/
  address : String
  /-- The parameters. -/
  params : FlashParams
  deriving DecidableEq, Repr, Inhabited

/-- No file, the lowest address and parameters that keep everything. -/
def CustomFile.empty : CustomFile :=
  ⟨none, "0x0000", .keep⟩

/-- What an operator picked. -/
inductive Choice where
  /-- A package of the catalog, if one was picked. -/
  | catalog (package : Option Package)
  /-- A file. -/
  | custom (file : CustomFile)
  deriving DecidableEq, Repr, Inhabited

/-- An image with its address read. -/
structure PlacedImage where
  /-- Where the image is. -/
  path : String
  /-- Its flash address. -/
  address : UInt32
  deriving DecidableEq, Repr, Inhabited

/-- A choice that can be written. -/
inductive Source where
  /-- A package, its images in the order of writing, and its parameters. -/
  | catalog (package : Package) (images : List PlacedImage) (params : FlashParams)
  /-- A file, its address and its parameters. -/
  | custom (file : String) (address : UInt32) (params : FlashParams)
  deriving DecidableEq, Repr, Inhabited

namespace Source

/-- The parameters of a source. -/
def params : Source → FlashParams
  | .catalog _ _ p => p
  | .custom _ _ p => p

/-- A source's name for people. -/
def label : Source → String
  | .catalog package _ _ => package.name
  | .custom file _ _ => file

end Source

/-- An image with its address read. -/
def Image.place (i : Image) : Except ChoiceFault PlacedImage := do
  pure ⟨i.path, ← parseAddress i.address⟩

/-- What a choice writes, if it can be written. -/
def Choice.resolve : Choice → Except ChoiceFault Source
  | .catalog none => .error .noPackage
  | .catalog (some package) =>
    if package.images.isEmpty then .error (.noImages package.name)
    else do
      let images ← package.images.mapM Image.place
      pure (.catalog package images package.params)
  | .custom picked =>
    match picked.file with
    | none => .error .noFile
    | some file => do
      picked.params.checkChoices
      let address ← parseAddress picked.address
      pure (.custom file address picked.params)

end FlashStation

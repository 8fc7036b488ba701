/-
# Packages and the manifest that lists them

A package is a named set of images with the address of each and the flash
parameters it wants; the manifest lists packages and may recommend a baud rate.
Both are JSON documents. Members that are absent or `null` are left out again
when the value is written, except the two lists, which are always written.

Key definitions: `Package`, `Manifest`, `Manifest.read`, `Manifest.toJson`,
`Package.params`.
-/
import FlashStation.Image.Params
import FlashStation.Json.Reader

namespace FlashStation

/-- One image of a package. -/
structure Image where
  /-- Where it is, below the catalog's base or at a remote address. -/
  path : String
  /-- The flash address as written. -/
  address : String
  deriving DecidableEq, Repr, Inhabited

/-- An entry of a catalog. -/
structure Package where
  /-- Its identifier. -/
  id : String
  /-- Its name for people. -/
  name : String
  /-- What it is. -/
  description : Option String
  /-- The family of chips it is for. -/
  chipFamily : Option String
  /-- The size of the flash chip. -/
  flashSize : Option String
  /-- The way the flash chip is accessed. -/
  flashMode : Option String
  /-- The clock of the flash chip. -/
  flashFreq : Option String
  /-- Whether the whole chip is erased first. -/
  eraseAll : Option Bool
  /-- The images, in the order of writing. -/
  images : List Image
  deriving DecidableEq, Repr, Inhabited

/-- What a catalog lists. -/
structure Manifest where
  /-- The baud rate that is recommended. -/
  defaultBaud : Option UInt32
  /-- The packages. -/
  packages : List Package
  deriving DecidableEq, Repr, Inhabited

/-! ### Reading -/

/-- An image that is being read. -/
structure ImageDraft where
  /-- The member `path`. -/
  path : Option String
  /-- The member `address`. -/
  address : Option String

/-- The fields of an image. -/
def ImageDraft.fields : List (Json.Field ImageDraft) :=
  [.of "path" (·.path) (fun d v => { d with path := some v }) Json.text,
   .of "address" (·.address) (fun d v => { d with address := some v }) Json.text]

/-- An image, if it has all its members. -/
def ImageDraft.image? (d : ImageDraft) : Option Image := do
  pure ⟨← d.path, ← d.address⟩

/-- Reads an image. -/
def Image.reader : Json.Reader Image :=
  Json.record ImageDraft.fields ⟨none, none⟩ ImageDraft.image?

/-- A package that is being read. A member that is `null` is there, with nothing in it. -/
structure PackageDraft where
  /-- The member `id`. -/
  id : Option String
  /-- The member `name`. -/
  name : Option String
  /-- The member `description`. -/
  description : Option (Option String)
  /-- The member `chipFamily`. -/
  chipFamily : Option (Option String)
  /-- The member `flashSize`. -/
  flashSize : Option (Option String)
  /-- The member `flashMode`. -/
  flashMode : Option (Option String)
  /-- The member `flashFreq`. -/
  flashFreq : Option (Option String)
  /-- The member `eraseAll`. -/
  eraseAll : Option (Option Bool)
  /-- The member `images`. -/
  images : Option (List Image)

/-- A package of which nothing is read yet. -/
def PackageDraft.empty : PackageDraft :=
  ⟨none, none, none, none, none, none, none, none, none⟩

/-- The fields of a package. -/
def PackageDraft.fields : List (Json.Field PackageDraft) :=
  [.of "id" (·.id) (fun d v => { d with id := some v }) Json.text,
   .of "name" (·.name) (fun d v => { d with name := some v }) Json.text,
   .of "description" (·.description) (fun d v => { d with description := some v })
     (Json.optional Json.text),
   .of "chipFamily" (·.chipFamily) (fun d v => { d with chipFamily := some v })
     (Json.optional Json.text),
   .of "flashSize" (·.flashSize) (fun d v => { d with flashSize := some v })
     (Json.optional Json.text),
   .of "flashMode" (·.flashMode) (fun d v => { d with flashMode := some v })
     (Json.optional Json.text),
   .of "flashFreq" (·.flashFreq) (fun d v => { d with flashFreq := some v })
     (Json.optional Json.text),
   .of "eraseAll" (·.eraseAll) (fun d v => { d with eraseAll := some v })
     (Json.optional Json.truth),
   .of "images" (·.images) (fun d v => { d with images := some v }) (Json.list Image.reader)]

/-- A package, if it has the members that it must have. -/
def PackageDraft.package? (d : PackageDraft) : Option Package := do
  pure {
    id := ← d.id
    name := ← d.name
    description := d.description.join
    chipFamily := d.chipFamily.join
    flashSize := d.flashSize.join
    flashMode := d.flashMode.join
    flashFreq := d.flashFreq.join
    eraseAll := d.eraseAll.join
    images := d.images.getD [] }

/-- Reads a package. -/
def Package.reader : Json.Reader Package :=
  Json.record PackageDraft.fields PackageDraft.empty PackageDraft.package?

/-- A manifest that is being read. -/
structure ManifestDraft where
  /-- The member `defaultBaud`. -/
  defaultBaud : Option (Option Nat)
  /-- The member `packages`. -/
  packages : Option (List Package)

/-- The number of baud rates that can be written. -/
def baudBound : Nat := 0x100000000

/-- The fields of a manifest. -/
def ManifestDraft.fields : List (Json.Field ManifestDraft) :=
  [.of "defaultBaud" (·.defaultBaud) (fun d v => { d with defaultBaud := some v })
     (Json.optional (Json.natural baudBound)),
   .of "packages" (·.packages) (fun d v => { d with packages := some v })
     (Json.list Package.reader)]

/-- A manifest; all its members may be absent. -/
def ManifestDraft.manifest (d : ManifestDraft) : Manifest where
  defaultBaud := d.defaultBaud.join.map UInt32.ofNat
  packages := d.packages.getD []

/-- Reads a manifest. -/
def Manifest.reader : Json.Reader Manifest :=
  Json.record ManifestDraft.fields ⟨none, none⟩ fun d => some d.manifest

/-- The package that a document holds. -/
def Package.read (document : List UInt8) : Except FetchFault Package :=
  (Json.document Package.reader document).mapError .manifest

/-- The manifest that a document holds. -/
def Manifest.read (document : List UInt8) : Except FetchFault Manifest :=
  (Json.document Manifest.reader document).mapError .manifest

/-! ### Writing -/

/-- A member that is left out when there is no value. -/
def Json.memberIfSome (name : String) (f : α → Json) : Option α → List (String × Json)
  | none => []
  | some a => [(name, f a)]

/-- An image's JSON form. -/
def Image.toJson (i : Image) : Json :=
  .obj [("path", .str i.path), ("address", .str i.address)]

/-- A package's JSON form. -/
def Package.toJson (p : Package) : Json :=
  .obj ([("id", .str p.id), ("name", .str p.name)] ++
    Json.memberIfSome "description" .str p.description ++
    Json.memberIfSome "chipFamily" .str p.chipFamily ++
    Json.memberIfSome "flashSize" .str p.flashSize ++
    Json.memberIfSome "flashMode" .str p.flashMode ++
    Json.memberIfSome "flashFreq" .str p.flashFreq ++
    Json.memberIfSome "eraseAll" .bool p.eraseAll ++
    [("images", .arr (p.images.map Image.toJson))])

/-- A manifest's JSON form. -/
def Manifest.toJson (m : Manifest) : Json :=
  .obj (Json.memberIfSome "defaultBaud" (fun b => .num b.toNat) m.defaultBaud ++
    [("packages", .arr (m.packages.map Package.toJson))])

/-- A manifest as a document. -/
def Manifest.write (m : Manifest) : List UInt8 :=
  Text.Utf8.encodeChars m.toJson.compact

/-! ### Parameters -/

/-- The parameters that a package declares; one that it does not declare is `keep`. -/
def Package.params (p : Package) : FlashParams where
  size := (p.flashSize.map Param.ofManifest).getD (.known .keep)
  mode := (p.flashMode.map Param.ofManifest).getD (.known .keep)
  freq := (p.flashFreq.map Param.ofManifest).getD (.known .keep)
  eraseAll := p.eraseAll.getD false

end FlashStation

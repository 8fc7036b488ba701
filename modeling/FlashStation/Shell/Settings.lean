/-
# Settings from files

Settings are kept in files: one for all working directories and one in the
working directory, which has the last word, or instead of both the one that the
operator names. A file that is absent, cannot be read or makes no sense
contributes nothing.

A section of a file is a table, and names in it that mean nothing are ignored. It
may also be a list, with the values in the place of their names.

Key definitions: `Settings`, `Settings.ofMembers?`, `Settings.merge`,
`Settings.load`.
-/
import FlashStation.Shell.Access
import FlashStation.Toml.Reader

namespace FlashStation

/-- What files can set. -/
structure Settings where
  /-- The port to use. -/
  port : Option String
  /-- The base of the catalog. -/
  base : Option String
  /-- Vendors whose ports count as known. -/
  vendors : List UInt16
  deriving DecidableEq, Repr, Inhabited

namespace Settings

/-- Nothing is set. -/
def empty : Settings := ⟨none, none, []⟩

/-- A text. -/
def text? : Toml → Option String
  | .text s => some s
  | _ => none

/-- A vendor number. -/
def vendor? : Toml → Option UInt16
  | .integer n => if 0 ≤ n ∧ n < 65536 then some (UInt16.ofNat n.toNat) else none
  | _ => none

/-- A list of vendor numbers. -/
def vendorList? : Toml → Option (List UInt16)
  | .list items => items.mapM vendor?
  | _ => none

/-- The value of a name in a section, read as `f` says, or `missing` without it.
`unlisted` is the value for a section that is a list without items. -/
def field? (f : Toml → Option α) (name : String) (missing : α) (unlisted : Option α) :
    Option Toml → Option α
  | none => some missing
  | some (.table _ members) =>
    match Toml.find? members name with
    | none => some missing
    | some v => f v
  | some (.list []) => unlisted
  | some (.list (v :: _)) => f v
  | some .moment => some missing
  | some _ => none

/-- The settings in a document. -/
def ofMembers? (members : Toml.Members) : Option Settings := do
  let text (v : Toml) : Option (Option String) := (text? v).map some
  pure {
    port := ← field? text "port" none none (Toml.find? members "connection")
    base := ← field? text "base" none none (Toml.find? members "catalog")
    vendors := ← field? vendorList? "extra_vendors" [] (some []) (Toml.find? members "ports") }

/-- Settings with those of another file on top. Vendors are gathered, each once. -/
def merge (s other : Settings) : Settings where
  port := other.port.or s.port
  base := other.base.or s.base
  vendors := other.vendors.foldl (fun vs v => if vs.contains v then vs else vs ++ [v]) s.vendors

/-- The mark that stands in a message for the details of a fault in a TOML document. -/
def tomlMark : String := "<toml>"

/-- Adds a note of this module to the diagnostic log. -/
def note (level : Level) (message : String) : Program Shell Unit :=
  Shell.note level .settings message

/-- The settings in a file, if it is there, can be read and makes sense. -/
def read? (path : String) : Program Shell (Option Settings) := do
  if !(← Program.perform (S := Shell) (.holds path)) then pure none
  else
    match ← Program.perform (S := Shell) (.read path) with
    | .error fault =>
      note .warn s!"Failed to read config file {path}: {fault.message}"
      pure none
    | .ok bytes =>
      match Text.Utf8.decode? bytes with
      | none =>
        note .warn s!"Failed to read config file {path}: stream did not contain valid UTF-8"
        pure none
      | some document =>
        match (Toml.read? document).bind ofMembers? with
        | none =>
          note .warn s!"Failed to parse config file {path}: {tomlMark}"
          pure none
        | some settings => pure (some settings)

/-- The file of the working directory. -/
def localPath : String := "m4gflash.toml"

/-- The file for all working directories, from the values of `XDG_CONFIG_HOME`
and `HOME`. -/
def globalPath (configHome home : Option String) : Option String :=
  let below (root : String) : String := joinPath (joinPath root "m4gflash") "config.toml"
  match configHome.filter fun d => Text.startsWith d "/" with
  | some root => some (below root)
  | none => (home.filter fun d => !d.isEmpty).map fun d => below (joinPath d ".config")

/-- The settings of one file on top of others, with a note that they were loaded. -/
def add (settings : Settings) (kind path : String) : Program Shell Settings := do
  match ← read? path with
  | none => pure settings
  | some more =>
    note .debug s!"Loaded {kind} config from {path}"
    pure (settings.merge more)

/-- The settings of the file for all working directories and of the one of the
working directory. -/
def loadFound (global : Option String) : Program Shell Settings := do
  let settings ← match global with
    | none => pure empty
    | some path => add empty "global" path
  add settings "local" localPath

/-- The settings of the file that the operator names. -/
def loadNamed (path : String) : Program Shell Settings := do
  match ← read? path with
  | some settings =>
    note .debug s!"Loaded config from {path}"
    pure settings
  | none =>
    note .warn s!"Could not load config from {path}, using defaults"
    pure empty

/-- The settings that hold. -/
def load (named global : Option String) : Program Shell Settings :=
  match named with
  | some path => loadNamed path
  | none => loadFound global

end Settings

end FlashStation

/-
# Bases

The paths of a manifest start at a base, which is a directory or the address of
one on a server. The text of a server's base gets a slash at its end, so that
paths go below it and do not replace its last name. A path that is an address of
the web itself does not start at the base; a directory refuses it.

Key definitions: `Base`, `Base.ofText`, `Base.locate`, `Base.find`.
-/
import FlashStation.Place.Disk
import FlashStation.Place.Url

namespace FlashStation

/-- Whether a path is an address of the web itself. -/
def isRemote (path : String) : Bool :=
  Text.startsWith path "http://" || Text.startsWith path "https://"

/-- Where the paths of a manifest start. -/
inductive Base where
  /-- A directory. -/
  | directory (root : String)
  /-- The address of a directory on a server. -/
  | server (root : Url)
  deriving DecidableEq, Repr, Inhabited

/-- The thing that a path leads to. -/
inductive Target where
  /-- A file. -/
  | file (path : String)
  /-- A resource on a server. -/
  | resource (url : Url)
  deriving DecidableEq, Repr, Inhabited

namespace Base

/-- The base on a server that a text names. -/
def ofServer (base : String) : Except FetchFault Base :=
  let address := if base.toList.getLast? = some '/' then base else base ++ "/"
  match Url.parse address with
  | .ok url => .ok (.server url)
  | .error fault => .error (.invalidLocation base fault.message)

/-- The base that a text names. -/
def ofText (base : String) : Except FetchFault Base :=
  if isRemote base then ofServer base else .ok (.directory base)

/-- The address that a path means on a server. -/
def resource (root : Url) (path : String) : Except FetchFault Url :=
  match if isRemote path then Url.parse path else root.join path with
  | .ok url => .ok url
  | .error fault => .error (.invalidLocation path fault.message)

/-- Where a path leads to, for messages; a path that makes no sense stands for
itself. -/
def locate : Base → String → String
  | .directory root, path => if isRemote path then path else joinPath root path
  | .server root, path =>
    match resource root path with
    | .ok url => url.text
    | .error _ => path

/-- The thing that a path leads to. -/
def find : Base → String → Except FetchFault Target
  | .directory root, path =>
    if isRemote path then
      .error (.invalidLocation path "remote images need an http(s) catalog base")
    else .ok (.file (joinPath root path))
  | .server root, path => (resource root path).map .resource

end Base

end FlashStation

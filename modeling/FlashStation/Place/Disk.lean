/-
# Files and paths

A disk holds files and directories below a working directory. A path is taken
apart at its slashes and followed name by name: `.` and an empty name stay where
they are, `..` goes to the parent, and each of them as well as every further
name needs a directory to start from. Outside the working directory nothing is
known but that there are directories above it, and what every system has at its
root.

Key definitions: `Disk`, `Disk.locate`, `Disk.read`, `Disk.holds`, `PathFault`,
`joinPath`, `systemNodes`.
-/
import FlashStation.Image.Fault
import FlashStation.Text.Blank
import FlashStation.Text.Pieces

namespace FlashStation

/-- A path below a base. An absolute path replaces the base; otherwise the
texts are put together with a slash, if one is needed. -/
def joinPath (base path : String) : String :=
  if Text.startsWith path "/" then path
  else if base.isEmpty then path
  else if base.toList.getLast? = some '/' then base ++ path
  else base ++ "/" ++ path

/-- What stands at a place of a disk. -/
inductive Node where
  /-- A file with its bytes. -/
  | file (data : List UInt8)
  /-- A directory. -/
  | directory
  deriving DecidableEq, Repr, Inhabited

/-- The files and directories below a working directory. -/
structure Disk where
  /-- The absolute path of the working directory. -/
  here : String
  /-- What is there, by the names that lead to it. -/
  nodes : List (List String × Node)
  deriving Repr, Inhabited

/-- A place that a path has led to. -/
inductive Spot where
  /-- In or below the working directory. -/
  | inside (names : List String)
  /-- Above or beside the working directory. -/
  | outside
  /-- Below the root of the system. -/
  | fromRoot (names : List String)
  deriving DecidableEq, Repr

/-- What every system has at its root: its own directories, the devices, one of which
is always empty, and a place for files that are not kept. -/
def systemNodes : List (List String × Node) :=
  (["dev", "etc", "home", "proc", "sys", "tmp", "usr", "var"].map fun n => ([n], .directory)) ++
    [(["dev", "null"], .file [])]

/-- Why a path cannot be followed, or leads to something else than a file. -/
inductive PathFault where
  /-- There is nothing of a name. -/
  | absent
  /-- A name goes on behind something that is no directory. -/
  | noDirectory
  /-- A directory has no bytes. -/
  | isDirectory
  /-- A name or a path is too long. -/
  | nameTooLong
  /-- A path contains the character of number zero. -/
  | zeroByte
  deriving DecidableEq, Repr, Inhabited

namespace PathFault

/-- What the system says. -/
def text : PathFault → String
  | .absent => "No such file or directory"
  | .noDirectory => "Not a directory"
  | .isDirectory => "Is a directory"
  | .nameTooLong => "File name too long"
  | .zeroByte => "Invalid argument"

/-- The fault of reading a file. -/
def reading : PathFault → ReadFault
  | .absent => .notFound (absent.text ++ " (os error 2)")
  | .noDirectory => .other (noDirectory.text ++ " (os error 20)")
  | .isDirectory => .other (isDirectory.text ++ " (os error 21)")
  | .nameTooLong => .other (nameTooLong.text ++ " (os error 36)")
  | .zeroByte => .other "file name contained an unexpected NUL byte"

end PathFault

/-- The longest name, in bytes. -/
def longestName : Nat := 255

/-- The longest path, in bytes. -/
def longestPath : Nat := 4095

namespace Disk

/-- What stands at a place. -/
def node? (d : Disk) : Spot → Option Node
  | .outside => some .directory
  | .inside [] => some .directory
  | .inside names => (d.nodes.find? (·.1 == names)).map (·.2)
  | .fromRoot [] => some .directory
  | .fromRoot names => (systemNodes.find? (·.1 == names)).map (·.2)

/-- Follows names from a place, to what stands at the last one. -/
def follow (d : Disk) (spot : Spot) : List String → Except PathFault (Spot × Node)
  | [] =>
    match d.node? spot with
    | some node => .ok (spot, node)
    | none => .error .absent
  | name :: rest =>
    match d.node? spot with
    | none => .error .absent
    | some (.file _) => .error .noDirectory
    | some .directory =>
      if name = "" ∨ name = "." then d.follow spot rest
      else if name = ".." then
        match spot with
        | .outside | .inside [] => d.follow .outside rest
        | .inside names => d.follow (.inside names.dropLast) rest
        | .fromRoot names => d.follow (.fromRoot names.dropLast) rest
      else if longestName < name.utf8ByteSize then .error .nameTooLong
      else
        match spot with
        | .outside => .error .absent
        | .inside names => d.follow (.inside (names ++ [name])) rest
        | .fromRoot names => d.follow (.fromRoot (names ++ [name])) rest

/-- Where a path leads, and what stands there. -/
def locate (d : Disk) (path : String) : Except PathFault (Spot × Node) :=
  if path.toList.contains '\x00' then .error .zeroByte
  else if path.isEmpty then .error .absent
  else if longestPath < path.utf8ByteSize then .error .nameTooLong
  else
    match Text.stripStart? path (d.here ++ "/") with
    | some below => d.follow (.inside []) (Text.split '/' below)
    | none =>
      if path = d.here then .ok (.inside [], .directory)
      else if Text.startsWith path "/" then d.follow (.fromRoot []) (Text.split '/' path)
      else d.follow (.inside []) (Text.split '/' path)

/-- The place of the file that a path leads to, and its bytes. -/
def file (d : Disk) (path : String) : Except PathFault (Spot × List UInt8) :=
  match d.locate path with
  | .ok (spot, .file data) => .ok (spot, data)
  | .ok (_, .directory) => .error .isDirectory
  | .error fault => .error fault

/-- The bytes of the file that a path leads to. -/
def read (d : Disk) (path : String) : Except ReadFault (List UInt8) :=
  ((d.file path).map (·.2)).mapError (·.reading)

/-- Whether a path leads to anything. -/
def holds (d : Disk) (path : String) : Bool :=
  (d.locate path).toOption.isSome

/-- The bytes of a file, with the path in the fault. -/
def readLocal (d : Disk) (path : String) : Except FetchFault (List UInt8) :=
  (d.read path).mapError (.io path)

/-- A disk with nothing on it. -/
def empty (here : String) : Disk :=
  ⟨here, []⟩

/-- The disk with a directory and those above it. -/
def addDirectory (d : Disk) (names : List String) : Disk :=
  let missing := ((List.range names.length).map fun n => names.take (n + 1)).filter fun n =>
    (d.nodes.find? (·.1 == n)).isNone
  { d with nodes := d.nodes ++ missing.map fun n => (n, .directory) }

/-- The disk with a file, and the directories above it. -/
def addFile (d : Disk) (names : List String) (data : List UInt8) : Disk :=
  let d := d.addDirectory names.dropLast
  { d with nodes := (names, .file data) :: d.nodes.filter (·.1 != names) }

/-- The names that a path below the working directory is made of. -/
def names (path : String) : List String :=
  (Text.split '/' path).filter fun n => n ≠ "" ∧ n ≠ "."

/-- The disk with what a path names: a directory if it ends in a slash, and a
file if not. -/
def put (d : Disk) (path : String) (data : List UInt8) : Disk :=
  if path.toList.getLast? = some '/' then d.addDirectory (names path)
  else d.addFile (names path) data

end Disk

end FlashStation

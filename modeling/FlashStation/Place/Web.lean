/-
# Fetching below a base

Files come from a disk. Resources come from a server: it is asked for the path
and the query of the address, with a parameter added that no cache has seen, and
its answer counts if its status is one of success. An address that no server can
be asked at gives no answer.

The server here is a table of answers by path. It is reached at any host that is
four numbers and at the own machine's name, and it keeps a record of what it was
asked. An answer that only says that another one will follow is no answer.

Key definitions: `Web`, `Web.ask`, `Base.fetch`.
-/
import FlashStation.Place.Base

namespace FlashStation

/-- What a server answers. -/
structure Reply where
  /-- The status. -/
  status : Nat
  /-- The bytes behind the head. -/
  body : List UInt8
  deriving DecidableEq, Repr, Inhabited

/-- What a server was asked. -/
structure Request where
  /-- The method. -/
  method : String
  /-- The path and the query. -/
  target : String
  /-- What caches are told. -/
  cacheControl : String
  deriving DecidableEq, Repr, Inhabited

/-- A server. -/
structure Web where
  /-- Its answers, by path. -/
  routes : List (String × Reply)
  /-- Whether nobody can connect to it. -/
  refuses : Bool
  /-- What it was asked so far. -/
  received : List Request
  deriving DecidableEq, Repr, Inhabited

namespace Web

/-- A server that nobody can connect to. -/
def unreachable : Web :=
  ⟨[], true, []⟩

/-- Whether an answer of a status has no bytes behind its head. -/
def isBodiless (status : Nat) : Bool :=
  status == 204 || status == 304

/-- Whether a status ends an exchange. It has three digits, and those that begin with
a one announce another answer, but for the one that changes the protocol. -/
def isFinal (status : Nat) : Bool :=
  status == 101 || (200 ≤ status && status ≤ 999)

/-- Whether the server is reached at a host. -/
def isReached : Host → Bool
  | .ipv4 _ => true
  | .name n => n == "localhost"
  | .ipv6 _ => false

/-- The answer for a path; what is not in the table is absent. -/
def reply (w : Web) (path : String) : Reply :=
  match w.routes.find? (·.1 == path) with
  | none => ⟨404, []⟩
  | some (_, r) => if isBodiless r.status then ⟨r.status, []⟩ else r

/-- Asks for a resource; there is no answer if the server cannot be reached or does
not come to an end. -/
def ask (w : Web) (url : Url) : Option Reply × Web :=
  if url.scheme == "http" && (url.host.map isReached).getD false && !w.refuses then
    let r := w.reply (Url.pathText true url.path)
    (if isFinal r.status then some r else none,
      { w with received := w.received ++ [⟨"GET", url.target, "no-store"⟩] })
  else (none, w)

end Web

/-- The bytes of a server's answer. -/
def Reply.bytes (location : String) : Option Reply → Except FetchFault (List UInt8)
  | none => .error (.http location)
  | some r =>
    if 200 ≤ r.status ∧ r.status < 300 then .ok r.body else .error (.status location r.status)

/-- Fetches what a path leads to. `stamp` is what makes a request differ from
all earlier ones. -/
def Base.fetch (base : Base) (stamp : String) (disk : Disk) (web : Web) (path : String) :
    Except FetchFault (List UInt8) × Web :=
  match base.find path with
  | .error fault => (.error fault, web)
  | .ok (.file file) => (disk.readLocal file, web)
  | .ok (.resource url) =>
    let (reply, web) := web.ask (url.addParameter "cache-bust" stamp)
    (Reply.bytes (base.locate path) reply, web)

end FlashStation

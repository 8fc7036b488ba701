/-
# Addresses of resources

An address has a scheme, perhaps an authority (a user, a host and a port), a
path, and perhaps a query and a fragment. Schemes of the web are special: they
always have a host and a path, their usual port is left out, and a backslash is
as good as a slash in them. A path is a list of segments, or an opaque text if
the scheme is followed neither by a slash nor by anything special. The letter of a
drive is a segment that no parent directory leads out of.

A relative text is read against a base: it keeps the base's parts up to the
first that it gives itself, and its path starts in the base's last directory.

Key definitions: `Url`, `Url.parse`, `Url.join`, `Url.text`.
-/
import FlashStation.Place.Host
import FlashStation.Text.Blank

namespace FlashStation

/-- The path of an address. -/
inductive UrlPath where
  /-- A text that is not looked into. -/
  | opaqueText (text : String)
  /-- Segments, each with a slash in front. -/
  | segments (list : List String)
  deriving DecidableEq, Repr, Inhabited

/-- The address of a resource. -/
structure Url where
  /-- The scheme, in small letters. -/
  scheme : String
  /-- The user's name, encoded. -/
  username : String
  /-- The user's password, encoded. -/
  password : String
  /-- The host, if there is an authority. -/
  host : Option Host
  /-- The port, unless it is the scheme's usual one. -/
  port : Option Nat
  /-- The path, encoded. -/
  path : UrlPath
  /-- The query, encoded. -/
  query : Option String
  /-- The fragment, encoded. -/
  fragment : Option String
  deriving DecidableEq, Repr, Inhabited

namespace Url

/-- Whether a scheme is one of the web's. -/
def isSpecial (scheme : String) : Bool :=
  ["http", "https", "ws", "wss", "ftp", "file"].contains scheme

/-- The port that a scheme has when none is written. -/
def usualPort? (scheme : String) : Option Nat :=
  if scheme = "http" ∨ scheme = "ws" then some 80
  else if scheme = "https" ∨ scheme = "wss" then some 443
  else if scheme = "ftp" then some 21
  else none

/-! ### Characters that are encoded -/

/-- In a fragment. -/
def fragmentReserved : List Char := [' ', '"', '<', '>', '`']

/-- In a path. -/
def pathReserved : List Char := fragmentReserved ++ ['#', '?', '\x7b', '\x7d']

/-- In a user's name and password. -/
def userReserved : List Char :=
  pathReserved ++ ['/', ':', ';', '=', '@', '[', '\\', ']', '^', '|']

/-- In a query. -/
def queryReserved (special : Bool) : List Char :=
  [' ', '"', '#', '<', '>'] ++ if special then ['\''] else []

/-! ### Printing -/

/-- A path's text. -/
def pathText (hasHost : Bool) : UrlPath → String
  | .opaqueText t => t
  | .segments l =>
    let t := String.join (l.map ("/" ++ ·))
    if !hasHost && 1 < l.length && l.head? = some "" then "/." ++ t else t

/-- The user's part of an authority. -/
def userText (u : Url) : String :=
  if u.username.isEmpty && u.password.isEmpty then ""
  else if u.password.isEmpty then u.username ++ "@"
  else u.username ++ ":" ++ u.password ++ "@"

/-- The part before the path. -/
def authorityText (u : Url) : String :=
  match u.host with
  | none => ""
  | some host => "//" ++ u.userText ++ host.text ++ ((u.port.map (":" ++ Text.decimal ·)).getD "")

/-- The query with its mark. -/
def queryText (u : Url) : String :=
  (u.query.map ("?" ++ ·)).getD ""

/-- An address's text. -/
def text (u : Url) : String :=
  u.scheme ++ ":" ++ u.authorityText ++ pathText u.host.isSome u.path ++ u.queryText ++
    (u.fragment.map ("#" ++ ·)).getD ""

/-- What is asked of a server: the path and the query. -/
def target (u : Url) : String :=
  pathText true u.path ++ u.queryText

/-- The address with another parameter at the end of its query. -/
def addParameter (u : Url) (name value : String) : Url :=
  let old := u.query.getD ""
  { u with query := some (old ++ (if old.isEmpty then "" else "&") ++ name ++ "=" ++ value) }

/-! ### Taking a text apart -/

/-- Control characters and spaces around a text do not belong to it, and tabs
and line ends nowhere. -/
def clean (s : List Char) : List Char :=
  let isEdge (c : Char) : Bool := c.toNat ≤ 0x20
  let trimmed := ((s.dropWhile isEdge).reverse.dropWhile isEdge).reverse
  trimmed.filter fun c => c ≠ '\t' ∧ c ≠ '\n' ∧ c ≠ '\r'

/-- What stands before the first occurrence of a character, and behind it if it
occurs. -/
def cut (sep : Char) (s : List Char) : List Char × Option (List Char) :=
  match s.dropWhile (· != sep) with
  | [] => (s, none)
  | _ :: behind => (s.takeWhile (· != sep), some behind)

/-- The parts of a text that its marks show. -/
structure Parts where
  /-- What stands before the query and the fragment. -/
  front : List Char
  /-- The query as written. -/
  query : Option (List Char)
  /-- The fragment as written. -/
  fragment : Option (List Char)

/-- The parts of a text. -/
def Parts.of (s : List Char) : Parts :=
  let (rest, fragment) := cut '#' s
  let (front, query) := cut '?' rest
  ⟨front, query, fragment⟩

/-- The query of a text, encoded. -/
def Parts.queryFor (p : Parts) (scheme : String) : Option String :=
  p.query.map fun q => String.ofList (Text.percentEncode (queryReserved (isSpecial scheme)) q)

/-- The fragment of a text, encoded. -/
def Parts.fragmentText (p : Parts) : Option String :=
  p.fragment.map fun f => String.ofList (Text.percentEncode fragmentReserved f)

/-- The scheme at the front of a text, and what follows its colon. -/
def scheme? (s : List Char) : Option (String × List Char) :=
  match s with
  | [] => none
  | c :: _ =>
    if c.isAlpha then
      match cut ':' s with
      | (name, some rest) =>
        if name.all fun d => d.isAlphanum || d == '+' || d == '-' || d == '.' then
          some (String.ofList (name.map Text.foldCase), rest)
        else none
      | (_, none) => none
    else none

/-- Whether a character separates segments. -/
def isSlash (special : Bool) (c : Char) : Bool :=
  c == '/' || (special && c == '\\')

/-! ### Paths -/

/-- The pieces of a path between its separators. -/
def pathPieces (special : Bool) : List Char → List (List Char)
  | [] => [[]]
  | c :: s =>
    if isSlash special c then [] :: pathPieces special s
    else
      match pathPieces special s with
      | [] => [[c]]
      | p :: more => (c :: p) :: more

/-- Whether an encoded segment means the directory itself. -/
def isDot (segment : String) : Bool :=
  [".", "%2e"].contains (String.ofList (segment.toList.map Text.foldCase))

/-- Whether an encoded segment means the parent directory. -/
def isDoubleDot (segment : String) : Bool :=
  ["..", ".%2e", "%2e.", "%2e%2e"].contains (String.ofList (segment.toList.map Text.foldCase))

/-- Whether a segment is the letter of a drive: a letter of ASCII with a colon or a
bar behind it. -/
def isDrive (segment : String) : Bool :=
  match segment.toList with
  | [letter, mark] => letter.isAlpha && (mark == ':' || mark == '|')
  | _ => false

/-- Whether no parent directory leads out of a segment: it is the letter of a drive,
perhaps with a backslash behind it that separates nothing. -/
def isRooted (segment : String) : Bool :=
  match segment.toList with
  | letter :: mark :: rest =>
    letter.isAlpha && (mark == ':' || mark == '|') && (rest.isEmpty || rest.head? == some '\\')
  | _ => false

/-- The directory above one; there is none above a drive. -/
def parentOf (directory : List String) : List String :=
  if (directory.getLast?.map isRooted).getD false then directory else directory.dropLast

/-- A segment below a directory. The letter of a drive at the root of the own files
is written with a colon. -/
def below (ofFiles : Bool) (directory : List String) (segment : String) : List String :=
  if ofFiles && directory.isEmpty && isDrive segment then
    [String.ofList (segment.toList.take 1 ++ [':'])]
  else directory ++ [segment]

/-- Goes on from a directory along the pieces of a path. `ofFiles` says that the
path is one of files. -/
def walk (ofFiles : Bool) (directory : List String) : List (List Char) → List String
  | [] => directory
  | piece :: rest =>
    let segment := String.ofList (Text.percentEncode pathReserved piece)
    if isDoubleDot segment then
      walk ofFiles (if rest.isEmpty then parentOf directory ++ [""] else parentOf directory) rest
    else if isDot segment then
      walk ofFiles (if rest.isEmpty then directory ++ [""] else directory) rest
    else walk ofFiles (below ofFiles directory segment) rest

/-- The path from a root: the first separator belongs to the root. -/
def pathFromRoot (ofFiles special : Bool) (s : List Char) : List String :=
  match s with
  | [] => if special then [""] else []
  | c :: rest => walk ofFiles [] (pathPieces special (if isSlash special c then rest else c :: rest))

/-! ### Authorities -/

/-- A user's name and password in front of the last `@`, and what follows it.
`more` says that something follows the authority. -/
def splitUser (s : List Char) (more : Bool) : Except UrlFault (String × String × List Char) :=
  if s.contains '@' then
    let behind := (s.reverse.takeWhile (· != '@')).reverse
    let user := s.take (s.length - behind.length - 1)
    if user.isEmpty && behind.isEmpty && more then .error .emptyHost
    else
      let (name, password) := cut ':' user
      let encode (t : List Char) := String.ofList (Text.percentEncode userReserved t)
      .ok (encode name, encode (password.getD []), behind)
  else .ok ("", "", s)

/-- A host's text up to the colon of its port, and what follows the colon; in
brackets a colon belongs to the host. -/
def splitPort (inside : Bool) : List Char → List Char × Option (List Char)
  | [] => ([], none)
  | c :: s =>
    if c = ':' && !inside then ([], some s)
    else
      let r := splitPort (if c = '[' then true else if c = ']' then false else inside) s
      (c :: r.1, r.2)

/-- The port that digits write. -/
def portNumber : Nat → List Char → Except UrlFault Nat
  | n, [] => .ok n
  | n, c :: s =>
    if c.isDigit then
      let m := n * 10 + (c.toNat - '0'.toNat)
      if 65535 < m then .error .invalidPort else portNumber m s
    else .error .invalidPort

/-- The port that is written, unless it is empty or the usual one. -/
def parsePort (scheme : String) : Option (List Char) → Except UrlFault (Option Nat)
  | none => .ok none
  | some [] => .ok none
  | some digits => do
    let n ← portNumber 0 digits
    pure (if usualPort? scheme = some n then none else some n)

/-- An address from what follows its two slashes. -/
def ofAuthority (scheme : String) (parts : Parts) (s : List Char) : Except UrlFault Url := do
  let special := isSpecial scheme
  let authority := s.takeWhile fun c => !isSlash special c
  let rest := s.drop authority.length
  let more := !rest.isEmpty || parts.query.isSome || parts.fragment.isSome
  let (username, password, place) ← splitUser authority more
  let (hostText, portText) := splitPort false place
  if hostText.isEmpty &&
      (special || portText.isSome || !username.isEmpty || !password.isEmpty) then
    throw .emptyHost
  let host ← Host.parse special hostText
  let port ← parsePort scheme portText
  pure {
    scheme, username, password, port
    host := some host
    path := .segments (pathFromRoot false special rest)
    query := parts.queryFor scheme
    fragment := parts.fragmentText }

/-! ### Files -/

/-- The host of a file's address; the own machine has none. -/
def fileHost (s : List Char) : Except UrlFault Host :=
  if s.isEmpty then .ok (.name "")
  else do
    let host ← Host.parse true s
    pure (if host = .name "localhost" then .name "" else host)

/-- Whether a path begins with the letter of a drive. -/
def onDrive (path : List String) : Bool :=
  (path.head?.map isDrive).getD false

/-- The address of a file on a host. A drive belongs to the own machine, and the
path has no empty segments in front. -/
def ofFilePath (host : Host) (path : List String) (query fragment : Option String) : Url :=
  let named := path.dropWhile (· == "")
  { scheme := "file", username := "", password := "", port := none
    host := some (if onDrive path then .name "" else host)
    path := .segments (if named.isEmpty then [""] else named)
    query, fragment }

/-- The path of another file in the directory of the one at `path`. -/
def besideFile (path : List String) (s : List Char) : List String :=
  let directory := if (path.getLast?.map isDrive).getD false then path else path.dropLast
  walk true directory (pathPieces true s)

/-- An address of a file, from what follows the scheme. -/
def ofFile (base : Option Url) (parts : Parts) (s : List Char) : Except UrlFault Url := do
  let query := parts.queryFor "file"
  let fragment := parts.fragmentText
  let baseHost := (base.bind (·.host)).getD (.name "")
  let basePath :=
    match base.map (·.path) with
    | some (.segments l) => l
    | _ => []
  let slashes := (s.takeWhile (isSlash true)).length
  if 2 ≤ slashes then
    let behind := s.drop 2
    let authority := behind.takeWhile fun c => !isSlash true c
    if isDrive (String.ofList authority) then
      pure (ofFilePath (.name "") (pathFromRoot true true behind) query fragment)
    else
      let host ← fileHost authority
      pure (ofFilePath host (pathFromRoot true true (behind.drop authority.length)) query fragment)
  else if slashes = 1 then
    let path := pathFromRoot true true s
    pure (ofFilePath baseHost (if onDrive basePath && !onDrive path then basePath.take 1 ++ path else path)
      query fragment)
  else if s.isEmpty then
    match base with
    | some b =>
      pure (ofFilePath baseHost basePath (if parts.query.isSome then query else b.query) fragment)
    | none => pure (ofFilePath baseHost [""] query fragment)
  else
    let path := walk true [] (pathPieces true s)
    pure (ofFilePath baseHost (if onDrive path then path else besideFile basePath s) query fragment)

/-! ### Whole addresses -/

/-- A text without a scheme, against a base with segments. -/
def ofRelative (base : Url) (directory : List String) (parts : Parts) (s : List Char) :
    Except UrlFault Url :=
  let special := isSpecial base.scheme
  let query := parts.queryFor base.scheme
  let fragment := parts.fragmentText
  if s.isEmpty then
    .ok { base with query := if parts.query.isSome then query else base.query, fragment }
  else
    let slashes := (s.takeWhile (isSlash true)).length
    if 2 ≤ slashes then
      ofAuthority base.scheme parts (if s.take 2 = ['/', '/'] then s.drop 2 else s.drop slashes)
    else if slashes = 1 then
      .ok { base with path := .segments (walk false [] (pathPieces special (s.drop 1))), query, fragment }
    else
      .ok { base with path := .segments (walk false directory.dropLast (pathPieces special s)), query, fragment }

/-- A text with a scheme. -/
def ofScheme (base : Option Url) (scheme : String) (parts : Parts) (s : List Char) :
    Except UrlFault Url :=
  if scheme = "file" then ofFile (base.filter (·.scheme == "file")) parts s
  else if isSpecial scheme then
    let slashes := (s.takeWhile (isSlash true)).length
    match base with
    | some b =>
      match b.path with
      | .segments directory =>
        if slashes < 2 && b.scheme == scheme then ofRelative b directory parts s
        else ofAuthority scheme parts (s.drop slashes)
      | .opaqueText _ => ofAuthority scheme parts (s.drop slashes)
    | none => ofAuthority scheme parts (s.drop slashes)
  else if s.take 2 = ['/', '/'] then ofAuthority scheme parts (s.drop 2)
  else
    let path : UrlPath :=
      match s with
      | '/' :: rest => .segments (walk false [] (pathPieces false rest))
      | _ => .opaqueText (String.ofList (Text.percentEncode [] s))
    .ok {
      scheme, path, username := "", password := "", host := none, port := none
      query := parts.queryFor scheme
      fragment := parts.fragmentText }

/-- The address that a text writes, against a base if there is one. -/
def resolve (base : Option Url) (input : String) : Except UrlFault Url :=
  let s := clean input.toList
  let parts := Parts.of s
  match scheme? parts.front with
  | some (scheme, rest) => ofScheme base scheme parts rest
  | none =>
    match base with
    | none => .error .relativeWithoutBase
    | some b =>
      match b.path with
      | .opaqueText _ =>
        if s.head? = some '#' then .ok { b with fragment := parts.fragmentText }
        else .error .opaqueBase
      | .segments directory =>
        if b.scheme = "file" then ofFile (some b) parts parts.front
        else ofRelative b directory parts parts.front

/-- The address that a whole text writes. -/
def parse (input : String) : Except UrlFault Url :=
  resolve none input

/-- The address that a text means below a base. -/
def join (base : Url) (input : String) : Except UrlFault Url :=
  resolve (some base) input

end Url

end FlashStation

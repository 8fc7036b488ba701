/-
# Hosts

The host of an address is a domain name, four numbers of eight bits, or eight
numbers of sixteen bits in brackets. A name whose last label is a number is
taken for the four numbers, which may be written in base 8, 10 or 16, and the
last of which may fill several places.

Key definitions: `Host`, `Host.parse`, `Host.text`.
-/
import FlashStation.Place.Domain
import FlashStation.Text.Percent

namespace FlashStation

/-- Why a text is no address of a resource. -/
inductive UrlFault where
  /-- There is no host. -/
  | emptyHost
  /-- The port is no number of 16 bits. -/
  | invalidPort
  /-- Four numbers that are no host. -/
  | invalidIpv4
  /-- Brackets that hold no host. -/
  | invalidIpv6
  /-- A domain name with a character that it cannot have. -/
  | invalidDomain
  /-- A host of an unknown scheme with a character that it cannot have. -/
  | invalidHostCharacter
  /-- There is no scheme and nothing to start from. -/
  | relativeWithoutBase
  /-- There is no scheme, and what it starts from has no path to change. -/
  | opaqueBase
  deriving DecidableEq, Repr, Inhabited

/-- The text of a fault of addresses. -/
def UrlFault.message : UrlFault → String
  | .emptyHost => "empty host"
  | .invalidPort => "invalid port number"
  | .invalidIpv4 => "invalid IPv4 address"
  | .invalidIpv6 => "invalid IPv6 address"
  | .invalidDomain => "invalid international domain name"
  | .invalidHostCharacter => "invalid domain character"
  | .relativeWithoutBase => "relative URL without a base"
  | .opaqueBase => "relative URL with a cannot-be-a-base base"

/-- A host. -/
inductive Host where
  /-- A domain name, or any name if the scheme is unknown. -/
  | name (text : String)
  /-- Four numbers of eight bits, as one number. -/
  | ipv4 (address : Nat)
  /-- Eight numbers of sixteen bits. -/
  | ipv6 (pieces : List Nat)
  deriving DecidableEq, Repr, Inhabited

namespace Host

/-! ### Four numbers -/

/-- A number in base 8, 10 or 16, as its beginning tells; nothing but the
beginning is zero. -/
def number? (s : List Char) : Option Nat :=
  let digits (base : Nat) (ds : List Char) : Option Nat :=
    ds.foldl (fun acc c => do pure ((← acc) * base + (← Text.digitValue? base c))) (some 0)
  match s with
  | [] => none
  | '0' :: 'x' :: ds => digits 16 ds
  | '0' :: 'X' :: ds => digits 16 ds
  | '0' :: d :: ds => digits 8 (d :: ds)
  | ds => digits 10 ds

/-- The labels of a name, without the empty one behind a final point. -/
def labels (s : List Char) : List (List Char) :=
  let ls := Text.pieces '.' s
  if 1 < ls.length ∧ ls.getLast? = some [] then ls.dropLast else ls

/-- Whether the last label of a name is a number. -/
def endsInNumber (s : List Char) : Bool :=
  match (labels s).getLast? with
  | none | some [] => false
  | some l => l.all Char.isDigit || (number? l).isSome

/-- The host that four numbers or fewer write; the last one fills the places
that are left. -/
def parseIpv4 (s : List Char) : Except UrlFault Nat :=
  match (labels s).mapM number? with
  | none => .error .invalidIpv4
  | some numbers =>
    match numbers.reverse with
    | [] => .error .invalidIpv4
    | last :: front =>
      if 3 < front.length then .error .invalidIpv4
      else if front.any (255 < ·) || Nat.pow 256 (4 - front.length) ≤ last then .error .invalidIpv4
      else .ok (front.reverse.zipIdx.foldl (fun acc p => acc + p.1 * Nat.pow 256 (3 - p.2)) last)

/-- Four numbers with points between them. -/
def ipv4Text (n : Nat) : String :=
  Text.join "." ([3, 2, 1, 0].map fun k => Text.decimal (n / Nat.pow 256 k % 256))

/-! ### Eight numbers -/

/-- One to four hexadecimal digits. -/
def piece? (s : List Char) : Option Nat :=
  if s.isEmpty || 4 < s.length then none
  else s.foldl (fun acc c => do pure ((← acc) * 16 + (← Text.digitValue? 16 c))) (some 0)

/-- A number of eight bits in decimal, without zeros in front. -/
def octet? (s : List Char) : Option Nat :=
  if s.isEmpty || !s.all Char.isDigit || (1 < s.length && s.head? = some '0') || 3 < s.length then none
  else
    let n := s.foldl (fun acc c => acc * 10 + (c.toNat - '0'.toNat)) 0
    if n < 256 then some n else none

/-- Four numbers with points between them, as two numbers of sixteen bits. -/
def dotted? (s : List Char) : Option (List Nat) :=
  match (Text.pieces '.' s).mapM octet? with
  | some [a, b, c, d] => some [a * 256 + b, c * 256 + d]
  | _ => none

/-- Numbers with colons between them; the last two may be written with points. -/
def pieceList? (dottedEnd : Bool) : List (List Char) → Option (List Nat)
  | [] => some []
  | [p] => if dottedEnd && p.contains '.' then dotted? p else (piece? p).map ([·])
  | p :: rest => do
    let n ← piece? p
    let ns ← pieceList? dottedEnd rest
    pure (n :: ns)

/-- A sequence of characters before and behind the first two colons in a row. -/
def splitGap : List Char → Option (List Char × List Char)
  | [] => none
  | ':' :: ':' :: rest => some ([], rest)
  | c :: rest => (splitGap rest).map fun p => (c :: p.1, p.2)

/-- The numbers of a part beside a gap, which may be empty. -/
def side? (dottedEnd : Bool) (s : List Char) : Option (List Nat) :=
  if s.isEmpty then some [] else pieceList? dottedEnd (Text.pieces ':' s)

/-- The eight numbers that a text in brackets writes; two colons stand for as
many zeros as are missing, one at least. -/
def ipv6? (s : List Char) : Option (List Nat) :=
  match splitGap s with
  | none => (side? true s).filter (·.length == 8)
  | some (front, back) => do
    let a ← side? false front
    let b ← side? true back
    if a.length + b.length < 8 then
      pure (a ++ List.replicate (8 - a.length - b.length) 0 ++ b)
    else none

/-- The number of zeros at the front of a list. -/
def zeros (l : List Nat) : Nat :=
  (l.takeWhile (· == 0)).length

/-- Where the longest run of zeros begins and how long it is; of several the
first, and none shorter than two. -/
def longestZeros : List Nat → Nat → Option (Nat × Nat)
  | [], _ => none
  | n :: rest, at_ =>
    let here := zeros (n :: rest)
    match longestZeros rest (at_ + 1) with
    | some (place, length) => if length ≤ here then some (at_, here) else some (place, length)
    | none => if 2 ≤ here then some (at_, here) else none

/-- Eight numbers in hexadecimal, the longest run of zeros left out. -/
def ipv6Text (pieces : List Nat) : String :=
  let part (l : List Nat) : String := Text.join ":" (l.map (Text.hexLower 1))
  match longestZeros pieces 0 with
  | none => part pieces
  | some (place, length) => part (pieces.take place) ++ "::" ++ part (pieces.drop (place + length))

/-! ### Hosts -/

/-- Characters that no host has. -/
def forbidden : List Char :=
  ['\x00', '\t', '\n', '\r', ' ', '#', '/', ':', '<', '>', '?', '@', '[', '\\', ']', '^', '|']

/-- Whether a domain name cannot have a character. -/
def isForbiddenInDomain (c : Char) : Bool :=
  forbidden.contains c || c.toNat < 0x20 || c = '%' || c.toNat = 0x7F

/-- A text in brackets. -/
def parseBrackets (s : List Char) : Except UrlFault Host :=
  match s with
  | '[' :: rest =>
    if rest.getLast? = some ']' then
      match ipv6? rest.dropLast with
      | some pieces => .ok (.ipv6 pieces)
      | none => .error .invalidIpv6
    else .error .invalidIpv6
  | _ => .error .invalidIpv6

/-- The host of a scheme that is known. -/
def parseDomain (s : List Char) : Except UrlFault Host :=
  match Text.Utf8.decodeChars? (Text.percentDecode (Text.Utf8.encodeChars s)) with
  | none => .error .invalidDomain
  | some decoded =>
    match Domain.ascii? decoded with
    | none => .error .invalidDomain
    | some domain =>
      if domain.isEmpty then .error .emptyHost
      else if domain.any isForbiddenInDomain then .error .invalidDomain
      else if endsInNumber domain then (parseIpv4 domain).map .ipv4
      else .ok (.name (String.ofList domain))

/-- The host that a text writes; `special` says that the scheme is known. -/
def parse (special : Bool) (s : List Char) : Except UrlFault Host :=
  if s.head? = some '[' then parseBrackets s
  else if special then parseDomain s
  else if s.any forbidden.contains then .error .invalidHostCharacter
  else .ok (.name (String.ofList (Text.percentEncode [] s)))

/-- A host's text. -/
def text : Host → String
  | .name s => s
  | .ipv4 n => ipv4Text n
  | .ipv6 pieces => s!"[{ipv6Text pieces}]"

end Host

end FlashStation

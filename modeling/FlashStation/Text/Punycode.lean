/-
# Punycode

Punycode writes a label of any characters with letters, digits and hyphens of
ASCII. The characters of ASCII come first. The others are put in one by one, in
ascending order, and each is written as one number: how many places a cursor
passes on its way there, if it goes through all places of the label for one
character after the other. Numbers are written in base 36 with a threshold for
each digit that tells where a number ends; the thresholds adapt to the numbers
before.

Key definitions: `Text.Punycode.encode`, `Text.Punycode.decode?`,
`Text.Punycode.insertions`, `Text.Punycode.distances`, `Text.Punycode.insertAll`.
-/
import FlashStation.Text.Numeral

namespace FlashStation.Text.Punycode

/-- A digit of base 36: the letters come before the ten figures. -/
def digitChar (d : Nat) : Char :=
  if d < 26 then Char.ofNat ('a'.toNat + d) else Char.ofNat ('0'.toNat + (d - 26))

/-- The value of a digit, in letters of either case. -/
def digitValue? (c : Char) : Option Nat :=
  if 'a' ≤ c ∧ c ≤ 'z' then some (c.toNat - 'a'.toNat)
  else if 'A' ≤ c ∧ c ≤ 'Z' then some (c.toNat - 'A'.toNat)
  else if '0' ≤ c ∧ c ≤ '9' then some (c.toNat - '0'.toNat + 26)
  else none

/-- The threshold of a digit, from the 36-fold of its place and the bias. -/
def threshold (k bias : Nat) : Nat :=
  if k ≤ bias then 1 else if bias + 26 ≤ k then 26 else k - bias

/-- The part of the bias that a large number adds, and what is left of it. -/
def shrink (delta k : Nat) : Nat × Nat :=
  if 455 < delta then shrink (delta / 35) (k + 36) else (delta, k)
termination_by delta
decreasing_by exact Nat.div_lt_self (by omega) (by omega)

/-- The bias behind a number. -/
def adapt (delta count : Nat) (first : Bool) : Nat :=
  let d := if first then delta / 700 else delta / 2
  let (d, k) := shrink (d + d / count) 0
  k + 36 * d / (d + 38)

/-- The bias at the start. -/
def startBias : Nat := 72

/-- The character after those of ASCII. -/
def startPoint : Nat := 0x80

/-! ### Numbers -/

/-- The digits of a number. -/
def writeNumber (bias k q : Nat) : List Char :=
  if q < threshold k bias ∨ threshold k bias = 0 then [digitChar q]
  else
    digitChar (threshold k bias + (q - threshold k bias) % (36 - threshold k bias)) ::
      writeNumber bias (k + 36) ((q - threshold k bias) / (36 - threshold k bias))
termination_by q
decreasing_by
  exact Nat.lt_of_le_of_lt (Nat.div_le_self _ _) (by omega)

/-- The digits of some numbers. The bias adapts to each of them and to the number
of characters that are there once it is written. -/
def writeNumbers (bias count : Nat) (first : Bool) : List Nat → List Char
  | [] => []
  | q :: rest =>
    writeNumber bias 36 q ++ writeNumbers (adapt q (count + 1) first) (count + 1) false rest

/-- Reads a number, and gives what follows it. -/
def readNumber (bias k weight acc : Nat) : List Char → Option (Nat × List Char)
  | [] => none
  | c :: rest => do
    let d ← digitValue? c
    if d < threshold k bias then some (acc + d * weight, rest)
    else readNumber bias (k + 36) (weight * (36 - threshold k bias)) (acc + d * weight) rest

/-- Reads numbers to the end of a text. -/
def readNumbers (bias count : Nat) (first : Bool) (s : List Char) : Option (List Nat) :=
  if s.isEmpty then some []
  else
    match readNumber bias 36 1 0 s with
    | none => none
    | some (q, rest) =>
      if rest.length < s.length then
        (readNumbers (adapt q (count + 1) first) (count + 1) false rest).map (q :: ·)
      else none
termination_by s.length

/-! ### Insertions -/

/-- A number put into an ascending list, unless it is there. -/
def insertOnce (n : Nat) : List Nat → List Nat
  | [] => [n]
  | m :: rest => if n < m then n :: m :: rest else if n = m then m :: rest else m :: insertOnce n rest

/-- The characters of a label beyond ASCII, each once and in ascending order. -/
def pointsOf (label : List Char) : List Nat :=
  (label.filter fun c => startPoint ≤ c.toNat).foldr (fun c points => insertOnce c.toNat points) []

/-- The insertions that make a label out of its characters of ASCII: each character
with the place at which it is put in. What stands in front of it by then are the
smaller characters and its own earlier occurrences. -/
def insertions (label : List Char) : List (Nat × Nat) :=
  (pointsOf label).flatMap fun m =>
    label.zipIdx.filterMap fun (c, index) =>
      if c.toNat = m then some (m, (label.take index).countP fun d => d.toNat ≤ m) else none

/-- The places that a cursor passes from insertion to insertion. It begins at a
character and a place among some characters; behind the last place it goes on at
the first one for the next character. -/
def distances (point place count : Nat) : List (Nat × Nat) → List Nat
  | [] => []
  | (m, p) :: rest =>
    ((m - point) * (count + 1) + p - place) :: distances m (p + 1) (count + 1) rest

/-- Puts in a character for each distance. -/
def insertAll (point place : Nat) (label : List Char) : List Nat → Option (List Char)
  | [] => some label
  | q :: rest =>
    let m := point + (place + q) / (label.length + 1)
    let p := (place + q) % (label.length + 1)
    if m < 0x110000 ∧ ¬(0xD800 ≤ m ∧ m < 0xE000) then
      insertAll m (p + 1) (label.take p ++ Char.ofNat m :: label.drop p) rest
    else none

/-! ### Labels -/

/-- A label in characters of ASCII. -/
def encode (label : List Char) : List Char :=
  let basic := label.filter fun c => c.toNat < startPoint
  let numbers := distances startPoint 0 basic.length (insertions label)
  (if basic.isEmpty then [] else basic ++ ['-']) ++
    writeNumbers startBias basic.length true numbers

/-- The characters of ASCII in front of the last hyphen, and the digits behind it. -/
def splitLast (s : List Char) : List Char × List Char :=
  if s.contains '-' then
    let digits := (s.reverse.takeWhile (· != '-')).reverse
    (s.take (s.length - digits.length - 1), digits)
  else ([], s)

/-- The label that characters of ASCII write. -/
def decode? (s : List Char) : Option (List Char) :=
  let (basic, digits) := splitLast s
  (readNumbers startBias basic.length true digits).bind (insertAll startPoint 0 basic)

end FlashStation.Text.Punycode

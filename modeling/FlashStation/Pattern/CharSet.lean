/-
# Sets of characters

A set of characters is kept as ranges of their numbers, in ascending order and with
gaps between them.

Key definitions: `CharSet`, `CharSet.ofRanges`, `CharSet.union`,
`CharSet.complement`, `CharSet.inter`, `CharSet.has`, `CharSet.anyCase`.
-/

namespace FlashStation

/-- A set of characters. -/
structure CharSet where
  /-- The first and the last number of each range. -/
  ranges : List (Nat × Nat)
  deriving DecidableEq, Repr, Inhabited

namespace CharSet

/-- The largest number of a character. -/
def lastNumber : Nat := 0x10FFFF

/-- Puts ranges together that overlap or touch; they are in ascending order. -/
def joinRanges : List (Nat × Nat) → List (Nat × Nat)
  | [] => []
  | [r] => [r]
  | r :: q :: rest =>
    if q.1 ≤ r.2 + 1 then joinRanges ((r.1, max r.2 q.2) :: rest) else r :: joinRanges (q :: rest)
termination_by l => l.length

/-- The set of all characters in some ranges. -/
def ofRanges (l : List (Nat × Nat)) : CharSet :=
  ⟨joinRanges (l.mergeSort fun a b => a.1 ≤ b.1)⟩

/-- No character. -/
def empty : CharSet := ⟨[]⟩

/-- Every character. -/
def full : CharSet := ⟨[(0, lastNumber)]⟩

/-- One character. -/
def single (c : Char) : CharSet := ⟨[(c.toNat, c.toNat)]⟩

/-- The characters of either set. -/
def union (a b : CharSet) : CharSet :=
  ofRanges (a.ranges ++ b.ranges)

/-- The gaps between ranges from a number on. -/
def gaps (from_ : Nat) : List (Nat × Nat) → List (Nat × Nat)
  | [] => if from_ ≤ lastNumber then [(from_, lastNumber)] else []
  | r :: rest => if from_ < r.1 then (from_, r.1 - 1) :: gaps (r.2 + 1) rest else gaps (r.2 + 1) rest

/-- All other characters. -/
def complement (a : CharSet) : CharSet :=
  ⟨gaps 0 a.ranges⟩

/-- The characters of both sets. -/
def inter (a b : CharSet) : CharSet :=
  (a.complement.union b.complement).complement

/-- The characters of the first set that are not in the second one. -/
def diff (a b : CharSet) : CharSet :=
  a.inter b.complement

/-- The characters of exactly one of two sets. -/
def symmDiff (a b : CharSet) : CharSet :=
  (a.diff b).union (b.diff a)

/-- Whether a character is in a set. -/
def has (a : CharSet) (c : Char) : Bool :=
  a.ranges.any fun r => r.1 ≤ c.toNat && c.toNat ≤ r.2

/-- What two ranges have in common. -/
def overlap (r q : Nat × Nat) : List (Nat × Nat) :=
  if max r.1 q.1 ≤ min r.2 q.2 then [(max r.1 q.1, min r.2 q.2)] else []

/-- The numbers of the capital letters of ASCII. -/
def capitals : Nat × Nat := (0x41, 0x5A)

/-- The numbers of the small letters of ASCII. -/
def smalls : Nat × Nat := (0x61, 0x7A)

/-- The distance between a capital letter of ASCII and the small one. -/
def caseStep : Nat := 0x20

/-- A set with the letters of ASCII that differ from one in it by their case only. -/
def anyCase (a : CharSet) : CharSet :=
  ofRanges (a.ranges ++ a.ranges.flatMap fun r =>
    (overlap r capitals).map (fun q => (q.1 + caseStep, q.2 + caseStep)) ++
      (overlap r smalls).map fun q => (q.1 - caseStep, q.2 - caseStep))

/-- Whether all characters of a set are of ASCII. -/
def isAscii (a : CharSet) : Bool :=
  a.ranges.all fun r => r.2 < 0x80

end CharSet

end FlashStation

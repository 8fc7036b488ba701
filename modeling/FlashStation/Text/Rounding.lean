/-
# Rounding

Quotients of natural numbers are rounded to the nearest whole number, and a tie
goes to the even neighbour. A number with more binary digits than a double holds
is rounded to 53 of them in the same way.

Key definitions: `Text.roundQuotient`, `Text.toDouble`, `Text.tenths`,
`Text.beyondDouble`.
-/
import FlashStation.Text.Numeral

namespace FlashStation.Text

/-- `n / d`, rounded to the nearest whole number, ties to even. -/
def roundQuotient (n d : Nat) : Nat :=
  let q := n / d
  let twice := 2 * (n % d)
  if twice < d ∨ (twice = d ∧ q % 2 = 0) then q else q + 1

/-- The double that is nearest to a natural number. -/
def toDouble (n : Nat) : Nat :=
  let extra := Nat.log2 n + 1 - 53
  roundQuotient n (1 <<< extra) <<< extra

/-- `n / d` with one digit behind the point. -/
def tenths (n d : Nat) : String :=
  let t := roundQuotient (10 * n) d
  decimal (t / 10) ++ "." ++ decimal (t % 10)

/-- Whether `n * 10 ^ e` is beyond every double: it rounds to `2 ^ 1024` or more.
Numbers that are far from that are told by the number of their digits. -/
def beyondDouble (n : Nat) (e : Int) : Bool :=
  if n = 0 then false
  else
    let digits : Int := (Nat.toDigits 10 n).length
    if 310 < digits + e then true
    else if digits + e < 300 then false
    else
      let limit : Nat := (1 <<< 1024) - (1 <<< 970)
      if 0 ≤ e then limit ≤ n * Nat.pow 10 e.toNat else limit * Nat.pow 10 (-e).toNat ≤ n

end FlashStation.Text

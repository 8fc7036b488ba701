/-
# The most likely board is the first of the best rank

Kinds of boards have four ranks: the chip's own port, the two common bridges, the other known
vendors, and all else. The most likely board among some ports is found by one look through them for
each rank, the best first, and every look also takes what the looks before it would have taken. What
they come to together is the first port of the best rank that there is.

Such a port outranks all ports before it, and none behind it outranks it. This says at once what may
happen to the others: ports that do not outrank it may be added at the end, and any of the others
may be taken away, and it is still the one that is chosen.

Key definitions: `BoardKind.rank`, `likeliest`, `Wins`, `firstFrom`.
Key theorems: `bestCandidate_eq`, `firstFrom_wins`, `Wins.isLeast`, `bestCandidate_there`,
`bestCandidate_split`, `Wins.of_subset`, `most_likely_stays`.
-/
import Mathlib.Order.Bounds.Basic
import FlashStation.Serial.Board

namespace FlashStation

/-! ### Ranks -/

/-- The rank of a kind. The chip's own port comes before the bridges that most boards carry, these
before the other known vendors, and these before all else. -/
def BoardKind.rank : BoardKind → Nat
  | .espressif => 3
  | .cp210x | .ch34x => 2
  | .adafruit | .ftdi | .arduino | .raspberryPi => 1
  | .unknown => 0

/-- The rank of a port is that of its kind. -/
def DetectedPort.rank (p : DetectedPort) : Nat := p.kind.rank

/-- The places of the ports of the best rank among some ports. -/
def likeliest (ports : List DetectedPort) : Set Nat :=
  {i | ∃ p, ports[i]? = some p ∧ ∀ q ∈ ports, q.rank ≤ p.rank}

section
variable (k : BoardKind)

theorem BoardKind.rank_le : k.rank ≤ 3 := by
  cases k <;> decide

theorem BoardKind.beq_espressif_iff : (k == .espressif) = true ↔ 3 ≤ k.rank := by
  cases k <;> decide

theorem BoardKind.isPreferred_iff : k.isPreferred = true ↔ 2 ≤ k.rank := by
  cases k <;> decide

theorem BoardKind.isKnown_iff : k.isKnown = true ↔ 1 ≤ k.rank := by
  cases k <;> decide

end

/-! ### One look after the other -/

/-- The first port of a rank, or of a better one; if there is none, the first of the next rank. -/
def firstFrom (ports : List DetectedPort) : Nat → Option Nat
  | 0 => if ports.isEmpty then none else some 0
  | n + 1 => (ports.findIdx? (n + 1 ≤ ·.rank)).or (firstFrom ports n)

/-- Among the ports before it and behind it, a port is the first of the best rank. -/
structure Wins (before : List DetectedPort) (p : DetectedPort) (behind : List DetectedPort) :
    Prop where
  /-- It outranks those before it. -/
  outranks : ∀ q ∈ before, q.rank < p.rank
  /-- None behind it outranks it. -/
  unbeaten : ∀ q ∈ behind, q.rank ≤ p.rank

section
variable {ports before behind before' behind' more : List DetectedPort} {p : DetectedPort}
  {n i j : Nat}

/-- **The looks go through the ranks**, from the best one down. -/
theorem bestCandidate_eq (ports : List DetectedPort) : bestCandidate ports = firstFrom ports 3 := by
  have look {test : BoardKind → Bool} {n : Nat} (same : ∀ k, test k = true ↔ n ≤ k.rank) :
      ports.findIdx? (test ·.kind) = ports.findIdx? (n ≤ ·.rank) := by
    congr 1
    funext p
    rw [Bool.eq_iff_iff, same, decide_eq_true_iff, DetectedPort.rank]
  rw [bestCandidate, look BoardKind.beq_espressif_iff, look BoardKind.isPreferred_iff,
    look BoardKind.isKnown_iff]
  rfl

theorem firstFrom_eq_none : firstFrom ports n = none ↔ ports = [] := by
  induction n with
  | zero => simp [firstFrom]
  | succ n ih =>
    rw [firstFrom, Option.or_eq_none_iff, ih, and_iff_right_iff_imp]
    rintro rfl
    rfl

/-- What is found lies between what was passed over and what was not looked at. -/
theorem split_of_findIdx? {test : DetectedPort → Bool} (found : ports.findIdx? test = some i) :
    ∃ before p behind, ports = before ++ p :: behind ∧ before.length = i ∧
      test p = true ∧ ∀ q ∈ before, test q = false := by
  obtain ⟨there, passes, fails⟩ := List.findIdx?_eq_some_iff_getElem.mp found
  refine ⟨ports.take i, ports[i], ports.drop (i + 1), ?_, ?_, passes, fun q member => ?_⟩
  · rw [List.getElem_cons_drop, List.take_append_drop]
  · rw [List.length_take, Nat.min_eq_left there.le]
  · obtain ⟨j, bound, rfl⟩ := List.mem_take_iff_getElem.mp member
    exact Bool.eq_false_iff.mpr (fails j (by omega))

/-- **What the looks come to**: if no port is of a better rank than the one to begin with, they find
one that outranks those before it and that none behind it outranks. -/
theorem firstFrom_wins (bound : ∀ q ∈ ports, q.rank ≤ n) (found : firstFrom ports n = some i) :
    ∃ before p behind, ports = before ++ p :: behind ∧ before.length = i ∧
      Wins before p behind := by
  -- the induction is on the rank to begin with: a look that finds nothing lowers the bound
  induction n with
  | zero =>
    cases ports with
    | nil => cases found
    | cons p behind =>
      obtain rfl : 0 = i := Option.some.inj found
      refine ⟨[], p, behind, rfl, rfl, nofun, fun q member => ?_⟩
      exact (bound q (List.mem_cons_of_mem p member)).trans (Nat.zero_le _)
  | succ n ih =>
    rw [firstFrom] at found
    cases look : ports.findIdx? (n + 1 ≤ ·.rank) with
    | none =>
      rw [look, Option.none_or] at found
      refine ih (fun q member => ?_) found
      have passed := of_decide_eq_false (List.findIdx?_eq_none_iff.mp look q member)
      omega
    | some j =>
      rw [look, Option.some_or] at found
      obtain rfl := Option.some.inj found
      obtain ⟨before, p, behind, rfl, length, best, passed⟩ := split_of_findIdx? look
      have best : n + 1 ≤ p.rank := of_decide_eq_true best
      refine ⟨before, p, behind, rfl, length, fun q member => ?_, fun q member => ?_⟩
      · have := of_decide_eq_false (passed q member)
        omega
      · exact (bound q (by simp [member])).trans best

/-! ### The first of the best rank -/

/-- A port that wins is the first of the best rank. -/
theorem Wins.isLeast (h : Wins before p behind) :
    IsLeast (likeliest (before ++ p :: behind)) before.length := by
  refine ⟨⟨p, by simp, fun q member => ?_⟩, ?_⟩
  · rcases List.mem_append.mp member with earlier | rest
    · exact (h.outranks q earlier).le
    · rcases List.mem_cons.mp rest with rfl | later
      · exact Nat.le_refl _
      · exact h.unbeaten q later
  · rintro k ⟨q, there, best⟩
    by_contra earlier
    -- a port before the winner is not of the best rank, since the winner outranks it
    rw [List.getElem?_append_left (not_le.mp earlier)] at there
    have outranked := h.outranks q (List.mem_of_getElem? there)
    have unbeaten := best p (by simp)
    omega

theorem bestCandidate_eq_none : bestCandidate ports = none ↔ ports = [] := by
  rw [bestCandidate_eq, firstFrom_eq_none]

/-- The most likely board wins. -/
theorem bestCandidate_wins (chosen : bestCandidate ports = some i) :
    ∃ before p behind, ports = before ++ p :: behind ∧ before.length = i ∧
      Wins before p behind := by
  rw [bestCandidate_eq] at chosen
  exact firstFrom_wins (fun q _ => q.kind.rank_le) chosen

/-- Among some ports there is always a most likely board. -/
theorem bestCandidate_there (some? : ports ≠ []) :
    ∃ i, bestCandidate ports = some i ∧ i < ports.length := by
  obtain ⟨i, chosen⟩ := Option.ne_none_iff_exists'.mp (mt bestCandidate_eq_none.mp some?)
  obtain ⟨before, p, behind, rfl, rfl, _⟩ := bestCandidate_wins chosen
  exact ⟨before.length, chosen, by simp⟩

/-- The most likely board is the first of the best rank. -/
theorem bestCandidate_eq_some :
    bestCandidate ports = some i ↔ IsLeast (likeliest ports) i := by
  have isLeast {k : Nat} (chosen : bestCandidate ports = some k) : IsLeast (likeliest ports) k := by
    obtain ⟨before, p, behind, rfl, rfl, wins⟩ := bestCandidate_wins chosen
    exact wins.isLeast
  refine ⟨isLeast, fun least => ?_⟩
  have some? : ports ≠ [] := by
    rintro rfl
    obtain ⟨p, there, _⟩ := least.1
    cases there
  obtain ⟨k, chosen, _⟩ := bestCandidate_there some?
  rw [chosen, (isLeast chosen).unique least]

/-- **A port is the most likely board if and only if it wins.** -/
theorem bestCandidate_split :
    bestCandidate (before ++ p :: behind) = some before.length ↔ Wins before p behind := by
  refine ⟨fun chosen => ?_, fun wins => bestCandidate_eq_some.mpr wins.isLeast⟩
  obtain ⟨_, _, _, split, length, wins⟩ := bestCandidate_wins chosen
  obtain ⟨rfl, rest⟩ := List.append_inj split length.symm
  obtain ⟨rfl, rfl⟩ := List.cons.inj rest
  exact wins

/-! ### What the choice does not depend on -/

/-- Ports that are added behind a winner let it win if and only if none of them outranks it. -/
theorem Wins.append_iff (h : Wins before p behind) :
    Wins before p (behind ++ more) ↔ ∀ q ∈ more, q.rank ≤ p.rank := by
  refine ⟨fun wins q member => wins.unbeaten q (List.mem_append_right _ member), fun lower => ?_⟩
  exact ⟨h.outranks, List.forall_mem_append.mpr ⟨h.unbeaten, lower⟩⟩

/-- A port that wins also wins among fewer ports. -/
theorem Wins.of_subset (h : Wins before p behind) (fewer : before' ⊆ before)
    (less : behind' ⊆ behind) : Wins before' p behind' :=
  ⟨fun q member => h.outranks q (fewer member), fun q member => h.unbeaten q (less member)⟩

/-- Without one of the other ports a winner is chosen too, one place further up if it was behind
that one. -/
theorem Wins.eraseIdx (h : Wins before p behind) (other : j ≠ before.length) :
    let k := if j < before.length then before.length - 1 else before.length
    bestCandidate ((before ++ p :: behind).eraseIdx j) = some k ∧
      ((before ++ p :: behind).eraseIdx j)[k]? = some p := by
  intro k
  obtain ⟨before', behind', split, length, wins⟩ : ∃ before' behind',
      (before ++ p :: behind).eraseIdx j = before' ++ p :: behind' ∧ before'.length = k ∧
        Wins before' p behind' := by
    -- the other port is one of those before the winner, or one of those behind it
    rcases Nat.lt_or_gt_of_ne other with earlier | later
    · refine ⟨before.eraseIdx j, behind, List.eraseIdx_append_of_lt_length earlier _, ?_,
        h.of_subset (List.eraseIdx_subset ..) (List.Subset.refl _)⟩
      rw [List.length_eraseIdx_of_lt earlier]
      exact (if_pos earlier).symm
    · obtain ⟨m, rfl⟩ := Nat.exists_eq_add_of_lt later
      refine ⟨before, behind.eraseIdx m, ?_, (if_neg later.not_gt).symm,
        h.of_subset (List.Subset.refl _) (List.eraseIdx_subset ..)⟩
      rw [List.eraseIdx_append_of_length_le later.le, Nat.add_assoc, Nat.add_sub_cancel_left,
        List.eraseIdx_cons_succ]
  rw [split, ← length]
  exact ⟨bestCandidate_split.mpr wins, by simp⟩

end

/-- **The most likely board is the first of the best rank**, and there is one unless there are no
ports. Ports that are added at the end leave the choice as it is if and only if none of them outranks
the port that was chosen. If another port than that one is taken away, it is chosen still, at its new
place. -/
theorem most_likely_stays (ports : List DetectedPort) :
    (bestCandidate ports = none ↔ ports = []) ∧
    (∀ i, bestCandidate ports = some i ↔ IsLeast (likeliest ports) i) ∧
    ∀ i p, bestCandidate ports = some i → ports[i]? = some p →
      (∀ more, bestCandidate (ports ++ more) = some i ↔ ∀ q ∈ more, q.rank ≤ p.rank) ∧
      ∀ j, j ≠ i →
        let k := if j < i then i - 1 else i
        bestCandidate (ports.eraseIdx j) = some k ∧ (ports.eraseIdx j)[k]? = some p := by
  refine ⟨bestCandidate_eq_none, fun i => bestCandidate_eq_some, fun i p chosen there => ?_⟩
  obtain ⟨before, q, behind, rfl, rfl, wins⟩ := bestCandidate_wins chosen
  obtain rfl : q = p := by simpa using there
  refine ⟨fun more => ?_, fun j other => wins.eraseIdx other⟩
  rw [List.append_assoc, List.cons_append, bestCandidate_split, wins.append_iff]

/-- A port of the machine itself, an Arduino, and a board behind each of the two common bridges. -/
def mixedPorts : List DetectedPort :=
  [.ofInfo (.bare "/dev/ttyS0"), .ofInfo { PortInfo.bare "/dev/ttyACM0" with vid := some 0x2341 },
    .ofInfo { PortInfo.bare "/dev/ttyUSB0" with vid := some 0x1A86 },
    .ofInfo { PortInfo.bare "/dev/ttyUSB1" with vid := some 0x10C4 }]

/-- Of two boards behind the common bridges the first is chosen. It stays so when the second comes
once more, and it moves up without the port of the machine, but the chip's own port comes before
it. -/
theorem mixed_ports_stay :
    bestCandidate mixedPorts = some 2 ∧ IsLeast (likeliest mixedPorts) 2 ∧
      bestCandidate (mixedPorts ++ mixedPorts.drop 3) = some 2 ∧
      bestCandidate (mixedPorts ++ [⟨.bare "/dev/ttyACM1", .espressif⟩]) ≠ some 2 ∧
      bestCandidate (mixedPorts.eraseIdx 0) = some 1 ∧
      (mixedPorts.eraseIdx 0)[1]? = mixedPorts[2]? := by
  have chosen : bestCandidate mixedPorts = some 2 := by decide
  obtain ⟨_, first, stays⟩ := most_likely_stays mixedPorts
  obtain ⟨added, removed⟩ := stays 2 _ chosen rfl
  obtain ⟨moved, same⟩ := removed 0 (by decide)
  refine ⟨chosen, (first 2).mp chosen, (added _).mpr (by decide), fun kept => ?_, moved, same⟩
  exact absurd ((added _).mp kept) (by decide)

end FlashStation

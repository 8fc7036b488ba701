/-
# A lease that was lost does not come back

The word of a stream's lock is free, revoked, or the number of the lease that holds it. Each attempt
to take the lock uses up a number, an attempt that fails included, so the numbers that are given out
grow: as long as the counter has not gone round they are distinct, and none of them is one of the two
other words. Nothing but an attempt puts a number into the word, and then it is a new one. So a lease
that does not hold the lock, because it was revoked or given back or because the lock was freed
under it, never holds it again; and without holding it, a lease can neither use the stream nor free
the lock.

The steps of a lock are taken in any order. A step that names a lease may name any number, whether
it was given out or not.

Key definitions: `LockStep`, `LockBook`, `LockBook.run`, `LockBook.Counted`.
Key theorems: `LockBook.Counted.run`, `LockBook.Counted.lost_run`, `lease_exclusive`.
-/
import Mathlib
import FlashStation.Proofs.Talk
import FlashStation.Serial.Native

namespace FlashStation

/-! ### Steps of a lock -/

/-- A step on the lock of a stream. -/
inductive LockStep where
  /-- Somebody tries to take it. -/
  | acquire
  /-- Its lease is revoked. -/
  | revoke
  /-- It is freed, whoever holds it. -/
  | release
  /-- A lease is given back. -/
  | giveBack (number : UInt64)
  /-- Somebody reads, writes or flushes through a lease, which does nothing to the lock. -/
  | use (number : UInt64)
  deriving DecidableEq, Repr

/-- A lock, and the numbers of the leases that were given out, oldest first. -/
structure LockBook where
  /-- The lock. -/
  lock : StreamLock
  /-- The numbers that were given out. -/
  issued : List UInt64
  deriving DecidableEq, Repr

namespace LockBook

/-- A lock that was never taken. -/
def new : LockBook := ⟨.new, []⟩

/-- The lock after a step. -/
def step (b : LockBook) : LockStep → LockBook
  | .acquire => ⟨b.lock.acquire.2, b.issued ++ b.lock.acquire.1.toList⟩
  | .revoke => { b with lock := b.lock.revoke }
  | .release => { b with lock := b.lock.release }
  | .giveBack number => { b with lock := b.lock.giveBack number }
  | .use _ => b

/-- The lock after some steps. -/
def run (b : LockBook) (steps : List LockStep) : LockBook :=
  steps.foldl step b

/-- The book of a lock that was tried so many times: the counter agrees with that, and the numbers
given out are distinct and not beyond it. -/
structure Counted (b : LockBook) (tries : Nat) : Prop where
  attempts : b.lock.attempts.toNat = tries
  issued : ∀ n ∈ b.issued, 0 < n.toNat ∧ n.toNat ≤ tries
  distinct : b.issued.Nodup

end LockBook

namespace StreamLock

/-- An attempt gives the next number out if the lock is free; else it only uses the number up. -/
theorem acquire_eq (l : StreamLock) :
    l.acquire = if l.holder = free then (some (l.attempts + 1), ⟨l.attempts + 1, l.attempts + 1⟩)
      else (none, ⟨l.holder, l.attempts + 1⟩) := rfl

@[simp] theorem attempts_acquire (l : StreamLock) : l.acquire.2.attempts = l.attempts + 1 := by
  rw [acquire_eq]
  split <;> rfl

@[simp] theorem attempts_revoke (l : StreamLock) : l.revoke.attempts = l.attempts := by
  unfold revoke
  split <;> rfl

@[simp] theorem attempts_release (l : StreamLock) : l.release.attempts = l.attempts := rfl

@[simp] theorem attempts_giveBack (l : StreamLock) (n : UInt64) :
    (l.giveBack n).attempts = l.attempts := by
  unfold giveBack
  split <;> rfl

@[simp] theorem holder_release (l : StreamLock) : l.release.holder = free := rfl

@[simp] theorem holder_revoke (l : StreamLock) :
    l.revoke.holder = if l.holder = free then free else revoked := by
  unfold revoke isLocked
  by_cases h : l.holder = free <;> simp [h]

@[simp] theorem holder_giveBack (l : StreamLock) (n : UInt64) :
    (l.giveBack n).holder = if l.holder = n then free else l.holder := by
  unfold giveBack
  split <;> rfl

/-- A lock that is revoked keeps its word if it is free. -/
theorem revoke_word (l : StreamLock) :
    l.revoke.holder = l.holder ∨ l.revoke.holder = revoked ∧ l.holder ≠ free := by
  rw [holder_revoke]
  by_cases h : l.holder = free
  · exact .inl (by rw [if_pos h, h])
  · exact .inr ⟨if_neg h, h⟩

theorem giveBack_word (l : StreamLock) (n : UInt64) :
    (l.giveBack n).holder = l.holder ∨ (l.giveBack n).holder = free := by
  rw [holder_giveBack]
  split
  · exact .inr rfl
  · exact .inl rfl

/-- Only the lease that holds the lock frees it by being given back. -/
theorem giveBack_lost {l : StreamLock} {n : UInt64} (h : l.isHeldBy n = false) :
    l.giveBack n = l := by
  have other : l.holder ≠ n := by simpa [isHeldBy] using h
  unfold giveBack
  rw [if_neg other]

end StreamLock

namespace LockBook

open StreamLock

variable {b : LockBook} {tries : Nat} {n : UInt64}

theorem run_append (b : LockBook) (before after : List LockStep) :
    b.run (before ++ after) = (b.run before).run after :=
  List.foldl_append

theorem issued_step (b : LockBook) (s : LockStep) : b.issued ⊆ (b.step s).issued := by
  cases s with
  | acquire => exact List.subset_append_left _ _
  | revoke | release | giveBack | use => exact List.Subset.refl _

theorem issued_run (b : LockBook) (steps : List LockStep) : b.issued ⊆ (b.run steps).issued := by
  induction steps generalizing b with
  | nil => exact List.Subset.refl _
  | cons s steps ih => exact List.Subset.trans (b.issued_step s) (ih _)

theorem Counted.new : LockBook.new.Counted 0 :=
  ⟨rfl, List.forall_mem_nil _, List.nodup_nil⟩

/-- The number that the next attempt uses. -/
theorem Counted.next (h : b.Counted tries) (few : tries + 1 < 2 ^ 64) :
    (b.lock.attempts + 1).toNat = tries + 1 := by
  have counter := h.attempts
  rw [UInt64.toNat_add, counter]
  exact Nat.mod_eq_of_lt few

/-- An attempt is counted, and the number that it may give out is a new one. -/
theorem Counted.acquire (h : b.Counted tries) (few : tries + 1 < 2 ^ 64) :
    (b.step .acquire).Counted (tries + 1) := by
  have next := h.next few
  refine ⟨?_, ?_, ?_⟩
  · simp only [LockBook.step, attempts_acquire, next]
  · intro n hn
    simp only [LockBook.step, acquire_eq] at hn
    split at hn
    · rcases List.mem_append.mp hn with old | new
      · have := h.issued n old
        omega
      · have : n = b.lock.attempts + 1 := by simpa using new
        subst this
        omega
    · have := h.issued n (by simpa using hn)
      omega
  · simp only [LockBook.step, acquire_eq]
    split
    · refine List.nodup_append.mpr ⟨h.distinct, by simp, ?_⟩
      intro n old m new same
      have hm : m = b.lock.attempts + 1 := by simpa using new
      have := (h.issued n old).2
      rw [same, hm] at this
      omega
    · simpa using h.distinct

theorem Counted.step (h : b.Counted tries) {s : LockStep} (hs : s ≠ .acquire) :
    (b.step s).Counted tries := by
  refine ⟨?_, ?_, ?_⟩
  · rw [← h.attempts]
    cases s with
    | acquire => exact absurd rfl hs
    | revoke => simp [LockBook.step]
    | release => rfl
    | giveBack n => simp [LockBook.step]
    | use n => rfl
  · cases s with
    | acquire => exact absurd rfl hs
    | revoke | release | giveBack | use => exact h.issued
  · cases s with
    | acquire => exact absurd rfl hs
    | revoke | release | giveBack | use => exact h.distinct

/-- **The book stays in order,** as long as the counter does not go round. -/
theorem Counted.run (h : b.Counted tries) (steps : List LockStep)
    (few : tries + steps.count .acquire < 2 ^ 64) :
    (b.run steps).Counted (tries + steps.count .acquire) := by
  induction steps generalizing b tries with
  | nil => exact h
  | cons s steps ih =>
    by_cases hs : s = .acquire
    · subst hs
      rw [List.count_cons_self] at few ⊢
      have := ih (h.acquire (by omega)) (by omega)
      rwa [Nat.add_assoc, Nat.add_comm 1] at this
    · rw [List.count_cons_of_ne hs] at few ⊢
      exact ih (h.step hs) few

/-! ### Leases that were lost -/

/-- A number that was used up and does not hold the lock does not get it by one more step. -/
theorem Counted.lost_step (h : b.Counted tries) (s : LockStep)
    (few : tries + [s].count .acquire < 2 ^ 64 - 1) (hn : 0 < n.toNat ∧ n.toNat ≤ tries)
    (lost : b.lock.isHeldBy n = false) : (b.step s).lock.isHeldBy n = false := by
  have other : b.lock.holder ≠ n := by simpa [isHeldBy] using lost
  have not_free : free ≠ n := by
    rintro rfl
    exact absurd hn.1 (by decide)
  have not_revoked : revoked ≠ n := by
    rintro rfl
    have : (2 : Nat) ^ 64 - 1 ≤ tries := hn.2
    omega
  suffices (b.step s).lock.holder ≠ n by simpa [isHeldBy] using this
  cases s with
  | acquire =>
    rw [List.count_singleton_self] at few
    have next := h.next (by omega)
    have not_next : b.lock.attempts + 1 ≠ n := by
      rintro rfl
      omega
    simp only [LockBook.step, acquire_eq]
    split
    · exact not_next
    · exact other
  | revoke =>
    simp only [LockBook.step, holder_revoke]
    split
    · exact not_free
    · exact not_revoked
  | release => exact not_free
  | giveBack m =>
    simp only [LockBook.step, holder_giveBack]
    split
    · exact not_free
    · exact other
  | use m => exact other

/-- **A lease that does not hold the lock never holds it again.** -/
theorem Counted.lost_run (h : b.Counted tries) (steps : List LockStep)
    (few : tries + steps.count .acquire < 2 ^ 64 - 1) (hn : 0 < n.toNat ∧ n.toNat ≤ tries)
    (lost : b.lock.isHeldBy n = false) : (b.run steps).lock.isHeldBy n = false := by
  induction steps generalizing b tries with
  | nil => exact lost
  | cons s steps ih =>
    have split : ([s] ++ steps).count .acquire = [s].count .acquire + steps.count .acquire :=
      List.count_append
    rw [List.singleton_append] at split
    have after := h.lost_step s (by omega) hn lost
    have counted := h.run [s] (by omega)
    exact ih counted (by omega) ⟨hn.1, by omega⟩ after

end LockBook

/-! ### What a lost lease can do -/

namespace Cell

@[simp] theorem setLock_lock (c : Cell) (stream : StreamKind) :
    c.setLock stream (c.lock stream) = c := by
  cases stream <;> rfl

end Cell

namespace Lease

variable {l : Lease} {c : Cell}

/-- Through a lease that does not hold its stream nothing is read, written or flushed. The system is
not asked for anything. -/
theorem lost_use (lost : l.isLive c = false) :
    (∀ count, l.read count c = .done (.error (.revoked l.stream))) ∧
      (∀ bytes, l.write bytes c = .done (.error (.revoked l.stream))) ∧
      l.flush c = .done (.error (.revoked l.stream)) := by
  refine ⟨fun count => ?_, fun bytes => ?_, ?_⟩
  · unfold Lease.read
    simp only [lost, Bool.false_eq_true, ↓reduceIte]
    rfl
  · unfold Lease.write
    simp only [lost, Bool.false_eq_true, ↓reduceIte]
    rfl
  · unfold Lease.flush
    simp only [lost, Bool.false_eq_true, ↓reduceIte]
    rfl

/-- Giving back a lease that does not hold its stream leaves the shared state as it is. -/
theorem lost_giveBack (lost : l.isLive c = false) {talk : List (Exchange System)} {c' : Cell}
    (h : (l.giveBack c).Yields talk c') : c' = c := by
  obtain ⟨_, rest, rfl, after⟩ := Program.Yields.call_inv (S := System) _ h
  obtain ⟨-, rfl⟩ := Program.Yields.done_inv after
  rw [StreamLock.giveBack_lost lost, Cell.setLock_lock]

end Lease

/-- **Leases exclude each other.** Let a lock take any steps with fewer than 2^64 - 1 attempts to
take it in all. Then the numbers that were given out are distinct and differ from the words for a
free and for a revoked lock, at most one of them holds the lock, and one that did not hold it at
some moment after it was given out does not hold it later. A lease that does not hold its lock
reports that it was revoked when something is read, written or flushed through it, without asking
the system, and when it is given back, the lock keeps its word. -/
theorem lease_exclusive (before after : List LockStep)
    (few : (before ++ after).count .acquire < 2 ^ 64 - 1) :
    let past := LockBook.new.run before
    let now := past.run after
    now.issued.Nodup ∧
    (∀ n ∈ now.issued, n ≠ StreamLock.free ∧ n ≠ StreamLock.revoked) ∧
    now.issued.countP now.lock.isHeldBy ≤ 1 ∧
    (∀ n ∈ past.issued, past.lock.isHeldBy n = false → now.lock.isHeldBy n = false) ∧
    ∀ (l : Lease) (c : Cell), c.lock l.stream = now.lock → now.lock.isHeldBy l.number = false →
      (∀ count, l.read count c = .done (.error (.revoked l.stream))) ∧
      (∀ bytes, l.write bytes c = .done (.error (.revoked l.stream))) ∧
      l.flush c = .done (.error (.revoked l.stream)) ∧
      now.lock.giveBack l.number = now.lock ∧
      ∀ talk c', (l.giveBack c).Yields talk c' → c' = c := by
  intro past now
  have total : (before ++ after).count .acquire = before.count .acquire + after.count .acquire :=
    List.count_append
  have earlier : past.Counted (before.count .acquire) := by
    simpa using LockBook.Counted.new.run before (by omega)
  have counted : now.Counted (before.count .acquire + after.count .acquire) :=
    earlier.run after (by omega)
  refine ⟨counted.distinct, fun n hn => ?_, ?_, fun n hn lost => ?_, fun l c same lost => ?_⟩
  · obtain ⟨least, most⟩ := counted.issued n hn
    constructor
    · rintro rfl
      exact absurd least (by decide)
    · rintro rfl
      have : (2 : Nat) ^ 64 - 1 ≤ before.count .acquire + after.count .acquire := most
      omega
  · -- the one that holds the lock is its word
    have holder : now.lock.isHeldBy = fun n => n == now.lock.holder := by
      funext n
      exact Bool.beq_comm
    rw [holder]
    exact List.nodup_iff_count_le_one.mp counted.distinct _
  · exact earlier.lost_run after (by omega) (earlier.issued n hn) lost
  · have idle : l.isLive c = false := by rw [Lease.isLive, same, lost]
    obtain ⟨reads, writes, flushes⟩ := Lease.lost_use idle
    exact ⟨reads, writes, flushes, StreamLock.giveBack_lost lost,
      fun talk c' h => Lease.lost_giveBack idle h⟩

/-- A reader is revoked, the lock is freed, and a new reader takes it: the first one neither reads
nor frees the second one's lock. -/
theorem revoked_stays_out :
    let first : Lease := ⟨.readable, 7, 1⟩
    let steps : List LockStep := [.acquire, .acquire, .revoke, .release]
    let later : List LockStep := [.use 1, .acquire, .giveBack 1]
    let now := (LockBook.new.run steps).run later
    (steps ++ later).count .acquire < 2 ^ 64 - 1 ∧
    1 ∈ (LockBook.new.run steps).issued ∧
    now.issued = [1, 3] ∧ now.lock = ⟨3, 3⟩ ∧ now.issued.Nodup ∧
    now.lock.isHeldBy 1 = false ∧
    first.read 4 ⟨some 5, 115200, ⟨3, 3⟩, .new⟩ = .done (.error (.revoked .readable)) ∧
    now.lock.giveBack 1 = ⟨3, 3⟩ := by
  intro first steps later now
  have few : (steps ++ later).count .acquire < 2 ^ 64 - 1 := by decide
  obtain ⟨distinct, -, -, stale, idle⟩ := lease_exclusive steps later few
  have lost : now.lock.isHeldBy 1 = false := stale 1 (by decide) (by decide)
  obtain ⟨reads, -, -, keeps, -⟩ := idle first ⟨some 5, 115200, ⟨3, 3⟩, .new⟩ (by decide) lost
  exact ⟨few, by decide, by decide, by decide, distinct, lost, reads 4, keeps⟩

end FlashStation

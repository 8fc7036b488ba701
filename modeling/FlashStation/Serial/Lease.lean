/-
# Locks on streams

A stream is locked by giving out a lease, which is a number counted up with each
attempt. The lock's word says who holds it: nobody, a lease, or a lease that was
revoked and has not yet been given back. Only the lease in the word may use the
stream, and giving back any other lease changes nothing.

Key definitions: `StreamLock`, `StreamLock.acquire`, `StreamLock.revoke`,
`StreamLock.release`, `StreamLock.giveBack`.
-/
namespace FlashStation

/-- The lock of a stream. -/
structure StreamLock where
  /-- Who holds it. -/
  holder : UInt64
  /-- The number of attempts to take it. -/
  attempts : UInt64
  deriving DecidableEq, Repr, Inhabited

namespace StreamLock

/-- The word of a lock that nobody holds. -/
def free : UInt64 := 0

/-- The word of a lock whose lease was revoked. -/
def revoked : UInt64 := 0xFFFFFFFFFFFFFFFF

/-- A lock that was never taken. -/
def new : StreamLock := ⟨free, 0⟩

/-- Takes the lock, if nobody holds it, under a lease that is new. -/
def acquire (l : StreamLock) : Option UInt64 × StreamLock :=
  let lease := l.attempts + 1
  if l.holder = free then (some lease, ⟨lease, lease⟩) else (none, ⟨l.holder, lease⟩)

/-- Whether somebody holds the lock, be it only a lease that was revoked. -/
def isLocked (l : StreamLock) : Bool :=
  l.holder != free

/-- Whether the lock's lease was revoked. -/
def isRevoked (l : StreamLock) : Bool :=
  l.holder == revoked

/-- Whether a lease holds the lock. -/
def isHeldBy (l : StreamLock) (lease : UInt64) : Bool :=
  l.holder == lease

/-- Revokes the lease that holds the lock, if there is one. -/
def revoke (l : StreamLock) : StreamLock :=
  if l.isLocked then { l with holder := revoked } else l

/-- Frees the lock, whoever holds it. -/
def release (l : StreamLock) : StreamLock :=
  { l with holder := free }

/-- Gives a lease back; one that does not hold the lock changes nothing. -/
def giveBack (l : StreamLock) (lease : UInt64) : StreamLock :=
  if l.holder = lease then { l with holder := free } else l

end StreamLock

end FlashStation

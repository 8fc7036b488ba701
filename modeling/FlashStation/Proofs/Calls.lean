/-
# Calls on a port

All views of a device share one state: the open port, its baud rate and a lock for each stream. A
call through a view may come to anything that the answers of the system allow, but there are few
things that it does to the shared state, and `PortCall.Effect` lists them. From the list follows
what becomes of a closed port and of the word of each lock, which steps the locks take, and that a
call that fails leaves all that can be seen as it was, unless a writer could not send what it had
written.

Key definitions: `PortCall`, `PortCall.program`, `PortCall.Effect`, `PortCall.LockEffect`,
`PortCall.Covers`, `flushFailures`.
Key theorems: `PortCall.effect`, `PortCall.Effect.lock`, `PortCall.LockEffect.word`,
`PortCall.LockEffect.covered`, `PortCall.Effect.closed`, `PortCall.Effect.failed`,
`PortCall.Effect.opened`.
-/
import FlashStation.Proofs.Leases
import FlashStation.Serial.Provider

namespace FlashStation

open Program

/-! ### Calls -/

/-- A call on a port through one of its views, or the end of a lease. -/
inductive PortCall where
  /-- Open the port. -/
  | openAt (baud : UInt32)
  /-- Switch the baud rate. -/
  | setBaud (baud : UInt32)
  /-- Take a reader or a writer. -/
  | lease (stream : StreamKind)
  /-- Give a reader or a writer back. -/
  | giveBack (lease : Lease)
  /-- Revoke the reader. -/
  | cancelReader
  /-- Free the lock of the stream from the device. -/
  | releaseReader
  /-- Revoke the writer. -/
  | closeWriter
  /-- Free the lock of the stream to the device. -/
  | releaseWriter
  /-- Close the port. -/
  | close
  deriving DecidableEq, Repr

namespace PortCall

/-- What a call that makes no lease comes to. -/
def noLease (r : Except PortFault Unit × Cell) : Except PortFault (Option Lease) × Cell :=
  (r.1.map fun _ => none, r.2)

/-- What a call does through a view; a call that makes a lease gives it out. -/
def program (view : NativePort) :
    PortCall → Cell → Program System (Except PortFault (Option Lease) × Cell)
  | .openAt baud, c =>
    (c.openAt view.info.name view.timeout baud).bind fun r => .done (noLease r)
  | .setBaud baud, c => (c.setBaud baud).bind fun r => .done (noLease r)
  | .lease stream, c => (c.lease stream).bind fun r => .done (r.1.map some, r.2)
  | .giveBack l, c => (l.giveBack c).bind fun c => .done (.ok none, c)
  | .cancelReader, c => (c.cancelReader view.info.name).bind fun r => .done (noLease r)
  | .releaseReader, c => .done (noLease c.releaseReader)
  | .closeWriter, c => (c.closeWriter view.info.name).bind fun r => .done (noLease r)
  | .releaseWriter, c => .done (noLease c.releaseWriter)
  | .close, c => (c.close view.info.name).bind fun r => .done (noLease r)

/-- How many leases of a stream a call asks for. -/
def asks (stream : StreamKind) : PortCall → Nat
  | .lease s => if s = stream then 1 else 0
  | _ => 0

/-- The call that revokes the lease of a stream. -/
def stop : StreamKind → PortCall
  | .readable => .cancelReader
  | .writable => .closeWriter

/-- The call that frees the lock of a stream. -/
def free : StreamKind → PortCall
  | .readable => .releaseReader
  | .writable => .releaseWriter

end PortCall

/-- Why a flush failed, if an exchange is one that did. -/
def Exchange.flushFailure? : Exchange System → Option String
  | ⟨.flush _, .error message⟩ => some message
  | _ => none

/-- Why flushes failed in a talk. -/
def flushFailures (talk : List (Exchange System)) : List String :=
  talk.filterMap Exchange.flushFailure?

@[simp] theorem flushFailures_append (before after : List (Exchange System)) :
    flushFailures (before ++ after) = flushFailures before ++ flushFailures after :=
  List.filterMap_append

/-! ### What the calls come to -/

namespace Cell

variable {c c' : Cell} {name : String} {talk : List (Exchange System)}

@[simp] theorem handle_setLock (c : Cell) (stream : StreamKind) (l : StreamLock) :
    (c.setLock stream l).handle = c.handle := by
  cases stream <;> rfl

@[simp] theorem baud_setLock (c : Cell) (stream : StreamKind) (l : StreamLock) :
    (c.setLock stream l).baud = c.baud := by
  cases stream <;> rfl

@[simp] theorem lock_setLock (c : Cell) (stream other : StreamKind) (l : StreamLock) :
    (c.setLock stream l).lock other = if other = stream then l else c.lock other := by
  cases stream <;> cases other <;> rfl

theorem openAt_yields {timeout : Nat} {baud : UInt32} {r : Except PortFault Unit}
    (h : (c.openAt name timeout baud).Yields talk (r, c')) :
    (∃ fault, r = .error fault ∧ c' = c) ∨
      c.handle = none ∧ r = .ok () ∧ ∃ handle, c' = { c with handle := some handle, baud } := by
  unfold openAt at h
  cases hc : c.handle with
  | some handle =>
    simp only [hc] at h
    obtain ⟨-, same⟩ := h.done_inv
    cases same
    exact .inl ⟨_, rfl, rfl⟩
  | none =>
    simp only [hc] at h
    obtain ⟨_, _, -, after⟩ := Yields.call_inv (S := System) _ h
    obtain ⟨answer, _, -, rest⟩ := Yields.call_inv (S := System) _ after
    cases answer with
    | error message =>
      obtain ⟨-, same⟩ := Yields.done_inv rest
      cases same
      exact .inl ⟨_, rfl, rfl⟩
    | ok handle =>
      obtain ⟨-, same⟩ := Yields.done_inv rest
      cases same
      exact .inr ⟨rfl, rfl, handle, rfl⟩

theorem setBaud_yields {baud : UInt32} {r : Except PortFault Unit}
    (h : (c.setBaud baud).Yields talk (r, c')) :
    (∃ fault, r = .error fault ∧ c' = c) ∨
      c.handle.isSome = true ∧ r = .ok () ∧ c' = { c with baud } := by
  unfold setBaud at h
  cases hc : c.handle with
  | none =>
    simp only [hc] at h
    obtain ⟨-, same⟩ := h.done_inv
    cases same
    exact .inl ⟨_, rfl, rfl⟩
  | some handle =>
    simp only [hc] at h
    obtain ⟨answer, _, -, rest⟩ := Yields.call_inv (S := System) _ h
    cases answer with
    | error message =>
      obtain ⟨-, same⟩ := Yields.done_inv rest
      cases same
      exact .inl ⟨_, rfl, rfl⟩
    | ok _ =>
      obtain ⟨-, same⟩ := Yields.done_inv rest
      cases same
      exact .inr ⟨rfl, rfl, rfl⟩

/-- A lease that is not given out has used a number up, unless the port is closed. -/
theorem lease_yields {stream : StreamKind} {r : Except PortFault Lease}
    (h : (c.lease stream).Yields talk (r, c')) :
    (∃ fault, r = .error fault ∧ (c' = c ∨
      c' = c.setLock stream ⟨(c.lock stream).holder, (c.lock stream).attempts + 1⟩)) ∨
      c.handle.isSome = true ∧ (c.lock stream).holder = StreamLock.free ∧
        (∃ own, r = .ok ⟨stream, own, (c.lock stream).attempts + 1⟩) ∧
        c' = c.setLock stream ⟨(c.lock stream).attempts + 1, (c.lock stream).attempts + 1⟩ := by
  unfold lease at h
  cases hc : c.handle with
  | none =>
    simp only [hc] at h
    obtain ⟨-, same⟩ := h.done_inv
    cases same
    exact .inl ⟨_, rfl, .inl rfl⟩
  | some handle =>
    simp only [hc, StreamLock.acquire_eq] at h
    by_cases hf : (c.lock stream).holder = StreamLock.free
    · simp only [if_pos hf] at h
      obtain ⟨answer, _, -, rest⟩ := Yields.call_inv (S := System) _ h
      cases answer with
      | error message =>
        obtain ⟨-, same⟩ := Yields.done_inv rest
        cases same
        refine .inl ⟨_, rfl, .inr ?_⟩
        rw [hf, StreamLock.giveBack, if_pos rfl]
      | ok own =>
        obtain ⟨-, same⟩ := Yields.done_inv rest
        cases same
        exact .inr ⟨rfl, hf, ⟨own, rfl⟩, rfl⟩
    · simp only [if_neg hf] at h
      obtain ⟨-, same⟩ := h.done_inv
      cases same
      exact .inl ⟨_, rfl, .inr rfl⟩

theorem cancelReader_yields {r : Except PortFault Unit}
    (h : (c.cancelReader name).Yields talk (r, c')) : flushFailures talk = [] ∧
    (c.handle = none ∧ r = .error (.noStream .readable) ∧ c' = c ∨
      c.handle.isSome = true ∧ r = .ok () ∧ c' = c.setLock .readable c.reader.revoke) := by
  unfold cancelReader at h
  cases hc : c.handle with
  | none =>
    simp only [hc] at h
    obtain ⟨rfl, same⟩ := h.done_inv
    cases same
    exact ⟨rfl, .inl ⟨rfl, rfl, rfl⟩⟩
  | some handle =>
    simp only [hc] at h
    obtain ⟨_, _, rfl, rest⟩ := Yields.call_inv (S := System) _ h
    obtain ⟨rfl, same⟩ := Yields.done_inv rest
    cases same
    exact ⟨rfl, .inr ⟨rfl, rfl, by simp only [setLock, hc]⟩⟩

/-- Closing a writer fails if the port is closed or the writer is revoked already. Else the writer
is revoked, also if what it has written could not be sent. -/
theorem closeWriter_yields {r : Except PortFault Unit}
    (h : (c.closeWriter name).Yields talk (r, c')) :
    (flushFailures talk = [] ∧ c.handle = none ∧ r = .error (.noStream .writable) ∧ c' = c) ∨
      (flushFailures talk = [] ∧ c.writer.holder = StreamLock.revoked ∧
        r = .error .writerClosing ∧ c' = c) ∨
      c.handle.isSome = true ∧ c.writer.holder ≠ StreamLock.revoked ∧
        c' = c.setLock .writable c.writer.revoke ∧
        (flushFailures talk = [] ∧ r = .ok () ∨
          ∃ message, flushFailures talk = [message] ∧ r = .error (.io message)) := by
  unfold closeWriter at h
  cases hc : c.handle with
  | none =>
    simp only [hc] at h
    obtain ⟨rfl, same⟩ := h.done_inv
    cases same
    exact .inl ⟨rfl, rfl, rfl, rfl⟩
  | some handle =>
    simp only [hc, StreamLock.isRevoked, beq_iff_eq] at h
    by_cases hr : c.writer.holder = StreamLock.revoked
    · simp only [if_pos hr] at h
      obtain ⟨rfl, same⟩ := h.done_inv
      cases same
      exact .inr (.inl ⟨rfl, hr, rfl, rfl⟩)
    · simp only [if_neg hr] at h
      obtain ⟨_, _, rfl, after⟩ := Yields.call_inv (S := System) _ h
      obtain ⟨answer, _, rfl, rest⟩ := Yields.call_inv (S := System) _ after
      cases answer with
      | error message =>
        obtain ⟨rfl, same⟩ := Yields.done_inv rest
        cases same
        exact .inr (.inr ⟨rfl, hr, by simp only [setLock, hc], .inr ⟨message, rfl, rfl⟩⟩)
      | ok _ =>
        obtain ⟨rfl, same⟩ := Yields.done_inv rest
        cases same
        exact .inr (.inr ⟨rfl, hr, by simp only [setLock, hc], .inl ⟨rfl, rfl⟩⟩)

/-- A port is closed if it is open and both its streams are free, and else left alone. -/
theorem close_yields {r : Except PortFault Unit} (h : (c.close name).Yields talk (r, c')) :
    flushFailures talk = [] ∧
    ((∃ fault, r = .error fault ∧ c' = c ∧
        (c.handle = none ∨ ∃ s, (c.lock s).holder ≠ StreamLock.free)) ∨
      c.handle.isSome = true ∧ (∀ s, (c.lock s).holder = StreamLock.free) ∧ r = .ok () ∧
        c' = { c with handle := none }) := by
  unfold close at h
  cases hc : c.handle with
  | none =>
    simp only [hc] at h
    obtain ⟨rfl, same⟩ := h.done_inv
    cases same
    exact ⟨rfl, .inl ⟨_, rfl, rfl, .inl rfl⟩⟩
  | some handle =>
    simp only [hc, StreamLock.isLocked, bne_iff_ne] at h
    by_cases hr : c.reader.holder = StreamLock.free
    · by_cases hw : c.writer.holder = StreamLock.free
      · simp only [hr, hw, ne_eq, not_true_eq_false, ↓reduceIte] at h
        obtain ⟨_, _, rfl, after⟩ := Yields.call_inv (S := System) _ h
        obtain ⟨_, _, rfl, rest⟩ := Yields.call_inv (S := System) _ after
        obtain ⟨rfl, same⟩ := Yields.done_inv rest
        cases same
        exact ⟨rfl, .inr ⟨rfl, fun s => by cases s <;> assumption, rfl, rfl⟩⟩
      · simp only [hr, hw, ne_eq, not_true_eq_false, not_false_eq_true, ↓reduceIte] at h
        obtain ⟨rfl, same⟩ := h.done_inv
        cases same
        exact ⟨rfl, .inl ⟨_, rfl, rfl, .inr ⟨.writable, hw⟩⟩⟩
    · simp only [hr, ne_eq, not_false_eq_true, ↓reduceIte] at h
      obtain ⟨rfl, same⟩ := h.done_inv
      cases same
      exact ⟨rfl, .inl ⟨_, rfl, rfl, .inr ⟨.readable, hr⟩⟩⟩

end Cell

/-- The leases that a result gives out. -/
def leasesOf : Except PortFault (Option Lease) → List Lease
  | .ok (some l) => [l]
  | _ => []

@[simp] theorem mem_leasesOf {l : Lease} {result : Except PortFault (Option Lease)} :
    l ∈ leasesOf result ↔ result = .ok (some l) := by
  unfold leasesOf
  split <;> simp_all [eq_comm]

namespace PortCall

/-- What a call can come to on a shared state: its talk, what it gives back and the shared state
that it leaves. -/
inductive Effect (c : Cell) :
    PortCall → List (Exchange System) → Except PortFault (Option Lease) → Cell → Prop where
  /-- It fails, and nothing has changed. -/
  | fails (call : PortCall) (talk : List (Exchange System)) (fault : PortFault) :
      Effect c call talk (.error fault) c
  /-- No lease could be made, and a number was used up. -/
  | misses (stream : StreamKind) (talk : List (Exchange System)) (fault : PortFault) :
      Effect c (.lease stream) talk (.error fault)
        (c.setLock stream ⟨(c.lock stream).holder, (c.lock stream).attempts + 1⟩)
  /-- The writer is revoked, but what it has written could not be sent. -/
  | unsent {talk : List (Exchange System)} {message : String} (isOpen : c.handle.isSome = true)
      (failed : flushFailures talk = [message]) :
      Effect c .closeWriter talk (.error (.io message)) (c.setLock .writable c.writer.revoke)
  /-- The port opens. -/
  | opens (closed : c.handle = none) (baud : UInt32) (handle : Nat)
      (talk : List (Exchange System)) :
      Effect c (.openAt baud) talk (.ok none) { c with handle := some handle, baud }
  /-- The baud rate changes. -/
  | switches (isOpen : c.handle.isSome = true) (baud : UInt32) (talk : List (Exchange System)) :
      Effect c (.setBaud baud) talk (.ok none) { c with baud }
  /-- A lease is given out under the next number. -/
  | leases (isOpen : c.handle.isSome = true) {stream : StreamKind}
      (unlocked : (c.lock stream).holder = StreamLock.free) (own : Nat)
      (talk : List (Exchange System)) :
      Effect c (.lease stream) talk (.ok (some ⟨stream, own, (c.lock stream).attempts + 1⟩))
        (c.setLock stream ⟨(c.lock stream).attempts + 1, (c.lock stream).attempts + 1⟩)
  /-- A lease is given back. -/
  | givesBack (l : Lease) (talk : List (Exchange System)) :
      Effect c (.giveBack l) talk (.ok none)
        (c.setLock l.stream ((c.lock l.stream).giveBack l.number))
  /-- The lease of a stream is revoked. -/
  | stops (isOpen : c.handle.isSome = true) (stream : StreamKind)
      (talk : List (Exchange System)) :
      Effect c (.stop stream) talk (.ok none) (c.setLock stream (c.lock stream).revoke)
  /-- The lock of a stream is freed. -/
  | frees (stream : StreamKind) (talk : List (Exchange System)) :
      Effect c (.free stream) talk (.ok none) (c.setLock stream (c.lock stream).release)
  /-- The port is closed. -/
  | closes (unlocked : ∀ s, (c.lock s).holder = StreamLock.free)
      (talk : List (Exchange System)) :
      Effect c .close talk (.ok none) { c with handle := none }

variable {c c' : Cell} {call : PortCall} {talk : List (Exchange System)}
  {result : Except PortFault (Option Lease)}

/-- **What a call comes to is one of its effects,** whatever the system answers. -/
theorem effect {view : NativePort} (h : (call.program view c).Yields talk (result, c')) :
    call.Effect c talk result c' := by
  cases call with
  | openAt baud =>
    obtain ⟨r, opened, same⟩ := Yields.map_inv h
    cases same
    rcases Cell.openAt_yields opened with ⟨fault, hr, hc⟩ | ⟨closed, hr, handle, hc⟩
    · rw [hr, hc]
      exact .fails _ _ fault
    · rw [hr, hc]
      exact .opens closed baud handle talk
  | setBaud baud =>
    obtain ⟨r, switched, same⟩ := Yields.map_inv h
    cases same
    rcases Cell.setBaud_yields switched with ⟨fault, hr, hc⟩ | ⟨isOpen, hr, hc⟩
    · rw [hr, hc]
      exact .fails _ _ fault
    · rw [hr, hc]
      exact .switches isOpen baud talk
  | lease stream =>
    obtain ⟨r, leased, same⟩ := Yields.map_inv h
    cases same
    rcases Cell.lease_yields leased with
      ⟨fault, hr, hc | hc⟩ | ⟨isOpen, unlocked, ⟨own, hr⟩, hc⟩
    · rw [hr, hc]
      exact .fails _ _ fault
    · rw [hr, hc]
      exact .misses stream talk fault
    · rw [hr, hc]
      exact .leases isOpen unlocked own talk
  | giveBack l =>
    obtain ⟨d, given, same⟩ := Yields.map_inv h
    cases same
    obtain ⟨_, _, -, rest⟩ := Yields.call_inv (S := System) _ given
    obtain ⟨-, rfl⟩ := Yields.done_inv rest
    exact .givesBack l talk
  | cancelReader =>
    obtain ⟨r, stopped, same⟩ := Yields.map_inv h
    cases same
    rcases Cell.cancelReader_yields stopped with ⟨-, ⟨-, hr, hc⟩ | ⟨isOpen, hr, hc⟩⟩
    · rw [hr, hc]
      exact .fails _ _ _
    · rw [hr, hc]
      exact .stops isOpen .readable talk
  | releaseReader =>
    obtain ⟨-, same⟩ := Yields.done_inv h
    cases same
    exact .frees .readable talk
  | closeWriter =>
    obtain ⟨r, stopped, same⟩ := Yields.map_inv h
    cases same
    rcases Cell.closeWriter_yields stopped with ⟨-, -, hr, hc⟩ | ⟨-, -, hr, hc⟩ |
      ⟨isOpen, -, hc, ⟨-, hr⟩ | ⟨message, failed, hr⟩⟩
    · rw [hr, hc]
      exact .fails _ _ _
    · rw [hr, hc]
      exact .fails _ _ _
    · rw [hr, hc]
      exact .stops isOpen .writable talk
    · rw [hr, hc]
      exact .unsent isOpen failed
  | releaseWriter =>
    obtain ⟨-, same⟩ := Yields.done_inv h
    cases same
    exact .frees .writable talk
  | close =>
    obtain ⟨r, closed, same⟩ := Yields.map_inv h
    cases same
    rcases Cell.close_yields closed with ⟨-, ⟨fault, hr, hc, -⟩ | ⟨-, unlocked, hr, hc⟩⟩
    · rw [hr, hc]
      exact .fails _ _ fault
    · rw [hr, hc]
      exact .closes unlocked talk

/-! ### What becomes of a lock -/

/-- What a call can come to for the lock of a stream. -/
inductive LockEffect (s : StreamKind) (l : StreamLock) :
    PortCall → Except PortFault (Option Lease) → StreamLock → Prop where
  /-- The lock stays as it is, and no lease of the stream is given out. -/
  | keeps (call : PortCall) {result : Except PortFault (Option Lease)}
      (none : ∀ m ∈ leasesOf result, m.stream ≠ s) : LockEffect s l call result l
  /-- No lease could be made, and a number was used up. -/
  | misses (fault : PortFault) :
      LockEffect s l (.lease s) (.error fault) ⟨l.holder, l.attempts + 1⟩
  /-- A lease is given out under the next number. -/
  | leases (unlocked : l.holder = StreamLock.free) (own : Nat) :
      LockEffect s l (.lease s) (.ok (some ⟨s, own, l.attempts + 1⟩))
        ⟨l.attempts + 1, l.attempts + 1⟩
  /-- A lease is given back. -/
  | givesBack (call : PortCall) (n : UInt64) : LockEffect s l call (.ok none) (l.giveBack n)
  /-- The lease is revoked. -/
  | stops (call : PortCall) {result : Except PortFault (Option Lease)}
      (none : leasesOf result = []) : LockEffect s l call result l.revoke
  /-- The lock is freed. -/
  | frees (call : PortCall) : LockEffect s l call (.ok none) l.release

/-- A call that replaces the lock of one stream leaves the other one alone. -/
theorem LockEffect.setLock {stream : StreamKind} {l : StreamLock}
    (here : LockEffect stream (c.lock stream) call result l)
    (only : ∀ m ∈ leasesOf result, m.stream = stream) (s : StreamKind) :
    LockEffect s (c.lock s) call result ((c.setLock stream l).lock s) := by
  rw [Cell.lock_setLock]
  by_cases hs : s = stream
  · subst hs
    rwa [if_pos rfl]
  · rw [if_neg hs]
    exact .keeps call fun m hm same => hs (same.symm.trans (only m hm))

/-- **Each call does to the lock of a stream one of these things.** -/
theorem Effect.lock (h : call.Effect c talk result c') (s : StreamKind) :
    LockEffect s (c.lock s) call result (c'.lock s) := by
  cases h with
  | fails | opens | switches | closes => exact .keeps _ (by simp)
  | misses stream talk fault => exact .setLock (.misses fault) (by simp) s
  | unsent => exact .setLock (.stops _ rfl) (by simp) s
  | leases _ unlocked own => exact .setLock (.leases unlocked own) (by simp) s
  | givesBack l => exact .setLock (.givesBack _ l.number) (by simp) s
  | stops _ stream => exact .setLock (.stops _ rfl) (by simp) s
  | frees stream => exact .setLock (.frees _) (by simp) s

/-- With these steps the lock of a book does what a call does to the lock of a stream: it has an
attempt only if the call asks for a lease, and a lease that the call gives out has its number from
there. -/
structure Covers (call : PortCall) (result : Except PortFault (Option Lease)) (s : StreamKind)
    (after : StreamLock) (book : LockBook) (steps : List LockStep) : Prop where
  few : steps.count .acquire ≤ call.asks s
  lock : (book.run steps).lock = after
  issued : ∀ l ∈ leasesOf result, l.stream = s → l.number ∈ (book.run steps).issued

section
variable {s : StreamKind} {l l' : StreamLock} {book : LockBook}

/-- What becomes of the word of a lock: it stays, it is free, it is revoked although it was not free,
or it is the number of a lease that the call gives out. -/
theorem LockEffect.word (h : LockEffect s l call result l') :
    l'.holder = l.holder ∨ l'.holder = StreamLock.free ∨
      (l'.holder = StreamLock.revoked ∧ l.holder ≠ StreamLock.free) ∨
      ∃ m, result = .ok (some m) ∧ m.stream = s ∧ l'.isHeldBy m.number = true := by
  cases h with
  | keeps | misses => exact .inl rfl
  | leases _ own => exact .inr (.inr (.inr ⟨_, rfl, rfl, by simp [StreamLock.isHeldBy]⟩))
  | givesBack _ n => exact (l.giveBack_word n).imp_right .inl
  | stops => exact l.revoke_word.imp_right fun stopped => .inr (.inl stopped)
  | frees => exact .inr (.inl rfl)

theorem Covers.single {step : LockStep} (noAttempt : step ≠ .acquire)
    (lock : (book.step step).lock = l) (none : leasesOf result = []) :
    call.Covers result s l book [step] := by
  refine ⟨?_, lock, by simp [none]⟩
  rw [List.count_singleton, if_neg (by simpa using noAttempt)]
  exact Nat.zero_le _

/-- **What a call does to the lock of a stream, steps of the lock do.** -/
theorem LockEffect.covered (h : LockEffect s l call result l') (same : book.lock = l) :
    ∃ steps, call.Covers result s l' book steps := by
  subst same
  cases h with
  | keeps _ none =>
    exact ⟨[], Nat.zero_le _, rfl, fun m hm hs => absurd hs (none m hm)⟩
  | misses fault =>
    have asks : 1 ≤ (PortCall.lease s).asks s := by simp [PortCall.asks]
    by_cases unlocked : book.lock.holder = StreamLock.free
    · -- the number was given out, and its lease given back
      refine ⟨[.acquire, .giveBack (book.lock.attempts + 1)], asks, ?_, by simp⟩
      simp [LockBook.run, LockBook.step, StreamLock.acquire_eq, unlocked, StreamLock.giveBack]
    · refine ⟨[.acquire], asks, ?_, by simp⟩
      simp [LockBook.run, LockBook.step, StreamLock.acquire_eq, unlocked]
  | leases unlocked own =>
    have acquired : (book.run [.acquire]) =
        ⟨⟨book.lock.attempts + 1, book.lock.attempts + 1⟩,
          book.issued ++ [book.lock.attempts + 1]⟩ := by
      simp [LockBook.run, LockBook.step, StreamLock.acquire_eq, unlocked]
    refine ⟨[.acquire], by simp [PortCall.asks], ?_, fun m hm _ => ?_⟩
    · rw [acquired]
    · obtain rfl := List.mem_singleton.mp hm
      rw [acquired]
      exact List.mem_append_right _ (List.mem_singleton_self _)
  | givesBack _ n => exact ⟨[.giveBack n], .single (by simp) rfl rfl⟩
  | stops _ none => exact ⟨[.revoke], .single (by simp) rfl none⟩
  | frees => exact ⟨[.release], .single (by simp) rfl rfl⟩

end

/-! ### Closed, failed and opened ports -/

/-- A port that is closed after a call was closed before it, and the call gave no lease out; or its
streams are free. -/
theorem Effect.shut (h : call.Effect c talk result c') (closed : c'.handle = none) :
    c.handle = none ∧ leasesOf result = [] ∨ ∀ s, (c'.lock s).holder = StreamLock.free := by
  cases h with
  | fails | switches => exact .inl ⟨closed, rfl⟩
  | misses | givesBack | frees =>
    rw [Cell.handle_setLock] at closed
    exact .inl ⟨closed, rfl⟩
  | unsent isOpen | leases isOpen | stops isOpen =>
    rw [Cell.handle_setLock] at closed
    rw [closed] at isOpen
    cases isOpen
  | opens => cases closed
  | closes unlocked => exact .inr unlocked

/-- A port that is closed after a call has both its streams free, if that was so before. -/
theorem Effect.closed (h : call.Effect c talk result c')
    (before : c.handle = none → ∀ s, (c.lock s).holder = StreamLock.free)
    (closed : c'.handle = none) (s : StreamKind) : (c'.lock s).holder = StreamLock.free := by
  rcases h.shut closed with ⟨was, none⟩ | free
  · have free := before was s
    rcases (h.lock s).word with same | freed | ⟨-, held⟩ | ⟨m, out, -, -⟩
    · exact same.trans free
    · exact freed
    · exact absurd free held
    · rw [out] at none
      cases none
  · exact free s

/-- A call that fails has changed nothing that can be seen, unless a writer could not send what it
had written. -/
theorem Effect.failed {fault : PortFault} (h : call.Effect c talk (.error fault) c') :
    (call = .closeWriter ∧ flushFailures talk ≠ []) ∨
      c'.handle = c.handle ∧ c'.baud = c.baud ∧ ∀ s, (c'.lock s).holder = (c.lock s).holder := by
  cases h with
  | fails => exact .inr ⟨rfl, rfl, fun _ => rfl⟩
  | misses stream =>
    refine .inr ⟨Cell.handle_setLock _ _ _, Cell.baud_setLock _ _ _, fun s => ?_⟩
    rw [Cell.lock_setLock]
    by_cases hs : s = stream
    · rw [if_pos hs, hs]
    · rw [if_neg hs]
  | unsent _ failed =>
    refine .inl ⟨rfl, ?_⟩
    rw [failed]
    exact List.cons_ne_nil _ _

/-- A port that opens shows both its streams free, if a closed port has them free. -/
theorem Effect.opened {baud : UInt32} {made : Option Lease}
    (h : (PortCall.openAt baud).Effect c talk (.ok made) c')
    (before : c.handle = none → ∀ s, (c.lock s).holder = StreamLock.free) :
    c'.streams = .free := by
  generalize hcall : PortCall.openAt baud = call at h
  generalize hresult : Except.ok made = result at h
  cases h with
  | opens closed baud handle =>
    have reader : c.reader.holder = StreamLock.free := before closed .readable
    have writer : c.writer.holder = StreamLock.free := before closed .writable
    simp [Cell.streams, StreamLock.isLocked, reader, writer, Streams.free]
  | stops _ stream | frees stream => cases stream <;> cases hcall
  | fails => cases hresult
  | _ => cases hcall

end PortCall

end FlashStation

/-
# A device under all calls on it

Calls are made on a device through any of its views, one after the other, and the system answers
them as it likes. What holds of the device at all times is kept by each call: a port that is closed
has both its streams free, and a stream that is locked was revoked or is held by a lease that was
given out. The lock of each stream only takes the steps of a lock, with one attempt at most for each
call that asked for a lease.

Key definitions: `Berth`, `PortDeed`, `Berth.Step`, `Berth.Run`, `Berth.Reach`, `Berth.Sound`,
`Berth.Booked`.
Key theorems: `Berth.Sound.step`, `Berth.Reach.sound`, `Berth.Run.booked`, `port_sound`.
-/
import FlashStation.Proofs.Calls

namespace FlashStation

open Program

/-! ### A device and all calls on it -/

/-- A device that calls work on. -/
structure Berth where
  /-- The shared state. -/
  cell : Cell
  /-- The leases that were given out, oldest first. -/
  leases : List Lease
  /-- How often each stream was asked for a lease. -/
  asked : StreamKind → Nat

/-- A call that came to an end: through which view it was made, what it asked the system and was
answered, and what it gave back. -/
structure PortDeed where
  /-- The view. -/
  view : NativePort
  /-- The call. -/
  call : PortCall
  /-- What was asked and answered. -/
  talk : List (Exchange System)
  /-- What the call gave back. -/
  result : Except PortFault (Option Lease)

/-- A call neither opened the port nor gave a lease out. -/
def PortDeed.Modest (d : PortDeed) : Prop :=
  leasesOf d.result = [] ∧ ∀ baud made, d.call = .openAt baud → d.result ≠ .ok made

namespace Berth

/-- A device that was never opened. -/
def new : Berth := ⟨.new, [], fun _ => 0⟩

/-- A call comes to an end, as the answers of the system have it. -/
structure Step (b : Berth) (d : PortDeed) (b' : Berth) : Prop where
  runs : (d.call.program d.view b.cell).Yields d.talk (d.result, b'.cell)
  leases : b'.leases = b.leases ++ leasesOf d.result
  asked : ∀ s, b'.asked s = b.asked s + d.call.asks s

/-- Any number of calls one after the other, each of which is as `may` says. -/
inductive Run (may : PortDeed → Prop) (b : Berth) : Berth → Prop where
  | here : Run may b b
  | step {b' b'' : Berth} {d : PortDeed} (run : Run may b b') (h : b'.Step d b'') (allowed : may d) :
      Run may b b''

/-- Calls may lead there from a device that was never opened. -/
def Reach (b : Berth) : Prop := Run (fun _ => True) new b

/-- What holds of a device at all times. -/
structure Sound (b : Berth) : Prop where
  /-- A closed port has both its streams free. -/
  closed : b.cell.handle = none → ∀ s, (b.cell.lock s).holder = StreamLock.free
  /-- A stream that is locked was revoked, or a lease holds it. -/
  held : ∀ s, (b.cell.lock s).holder = StreamLock.free ∨
    (b.cell.lock s).holder = StreamLock.revoked ∨
    ∃ l ∈ b.leases, l.stream = s ∧ l.isLive b.cell = true

variable {may : PortDeed → Prop} {b b' b'' : Berth} {d : PortDeed}

theorem Step.effect (h : b.Step d b') : d.call.Effect b.cell d.talk d.result b'.cell :=
  PortCall.effect h.runs

theorem Run.trans (first : Run may b b') (second : Run may b' b'') : Run may b b'' := by
  induction second with
  | here => exact first
  | step _ h allowed ih => exact ih.step h allowed

theorem Run.mono {must : PortDeed → Prop} (run : Run must b b') (h : ∀ d, must d → may d) :
    Run may b b' := by
  induction run with
  | here => exact .here
  | step _ hs allowed ih => exact ih.step hs (h _ allowed)

theorem Reach.run (reach : b.Reach) (run : Run may b b') : b'.Reach :=
  Run.trans reach (run.mono fun _ _ => trivial)

/-- What holds of a device at all times is kept by each call. -/
theorem Sound.step (sound : b.Sound) (h : b.Step d b') : b'.Sound := by
  refine ⟨h.effect.closed sound.closed, fun s => ?_⟩
  rcases (h.effect.lock s).word with same | freed | ⟨stopped, -⟩ | ⟨l, out, rfl, held⟩
  · rw [same]
    refine (sound.held s).imp_right (Or.imp_right ?_)
    rintro ⟨l, hl, rfl, live⟩
    refine ⟨l, ?_, rfl, ?_⟩
    · rw [h.leases]
      exact List.mem_append_left _ hl
    · rwa [Lease.isLive, StreamLock.isHeldBy, same]
  · exact .inl freed
  · exact .inr (.inl stopped)
  · refine .inr (.inr ⟨l, ?_, rfl, held⟩)
    rw [h.leases]
    exact List.mem_append_right _ (mem_leasesOf.mpr out)

theorem Reach.sound (reach : b.Reach) : b.Sound := by
  induction reach with
  | here => exact ⟨fun _ s => by cases s <;> rfl, fun s => .inl (by cases s <;> rfl)⟩
  | step _ h _ ih => exact ih.step h

/-! ### The lock of each stream takes the steps of a lock -/

/-- The lock of a stream is that of a book, and the leases of the stream are in the book. -/
structure Booked (b : Berth) (stream : StreamKind) (book : LockBook) : Prop where
  lock : book.lock = b.cell.lock stream
  issued : ∀ l ∈ b.leases, l.stream = stream → l.number ∈ book.issued

variable {stream : StreamKind} {book : LockBook}

theorem Booked.step (booked : b.Booked stream book) (h : b.Step d b') :
    ∃ steps : List LockStep, steps.count .acquire ≤ d.call.asks stream ∧
      b'.Booked stream (book.run steps) := by
  obtain ⟨steps, covers⟩ := (h.effect.lock stream).covered booked.lock
  refine ⟨steps, covers.few, covers.lock, fun l hl hs => ?_⟩
  rw [h.leases] at hl
  rcases List.mem_append.mp hl with old | new
  · exact book.issued_run steps (booked.issued l old hs)
  · exact covers.issued l new hs

/-- **Calls on a device are steps of the lock of each stream.** There are no more attempts than
calls that asked for a lease. -/
theorem Run.booked (run : Run may b b') (booked : b.Booked stream book) :
    ∃ steps : List LockStep, b.asked stream + steps.count .acquire ≤ b'.asked stream ∧
      b'.Booked stream (book.run steps) := by
  induction run with
  | here => exact ⟨[], Nat.le_refl _, booked⟩
  | @step b' b'' d _ h _ ih =>
    obtain ⟨before, few, booked'⟩ := ih
    obtain ⟨more, one, booked''⟩ := booked'.step h
    refine ⟨before ++ more, ?_, ?_⟩
    · rw [List.count_append, h.asked]
      omega
    · rwa [LockBook.run_append]

theorem Reach.booked (reach : b.Reach) (stream : StreamKind) :
    ∃ steps : List LockStep, steps.count .acquire ≤ b.asked stream ∧
      b.Booked stream (LockBook.new.run steps) := by
  have start : new.Booked stream LockBook.new := ⟨by cases stream <;> rfl, nofun⟩
  obtain ⟨steps, few, booked⟩ := Run.booked reach start
  exact ⟨steps, by simpa [new] using few, booked⟩

end Berth

/-! ### Ports are sound -/

/-- **Ports are sound.** After any calls through any views of a device, whatever the system
answers, the locks of both streams are free if the port is closed, so a port that opens shows both
of them free; the port is open if a lease that was given out holds its stream; and a call that fails
leaves the open port, the baud rate and the words of both locks as they were, unless the writer was
revoked and could not send what it had written.

The number of a lease is a counter of 64 bits. It goes round when a stream was asked for a lease
2^64 times, and then the word of a free lock is given out as a number. Such a lease, which cannot be
told from a free lock, is the only exception. -/
theorem port_sound {b : Berth} (reach : b.Reach) :
    (b.cell.handle = none →
      b.cell.reader.holder = StreamLock.free ∧ b.cell.writer.holder = StreamLock.free) ∧
    (∀ l ∈ b.leases, l.isLive b.cell = true → b.cell.handle.isSome = true ∨
      l.number = StreamLock.free ∧ 2 ^ 64 ≤ b.asked l.stream) ∧
    ∀ d b', b.Step d b' →
      (∀ baud made, d.call = .openAt baud → d.result = .ok made → b'.cell.streams = .free) ∧
      ∀ fault, d.result = .error fault →
        (d.call = .closeWriter ∧ flushFailures d.talk ≠ []) ∨
        (b'.cell.handle = b.cell.handle ∧ b'.cell.baud = b.cell.baud ∧
          b'.cell.reader.holder = b.cell.reader.holder ∧
          b'.cell.writer.holder = b.cell.writer.holder) := by
  have sound := reach.sound
  refine ⟨fun closed => ⟨sound.closed closed .readable, sound.closed closed .writable⟩,
    fun l hl live => ?_, fun d b' h => ⟨fun baud made hcall hresult => ?_, fun fault hf => ?_⟩⟩
  · by_cases closed : b.cell.handle = none
    · -- the lease holds a free lock
      have held : (b.cell.lock l.stream).holder = l.number := by
        simpa [Lease.isLive, StreamLock.isHeldBy] using live
      have free : l.number = StreamLock.free := held.symm.trans (sound.closed closed l.stream)
      refine .inr ⟨free, ?_⟩
      by_contra few
      obtain ⟨steps, tries, booked⟩ := reach.booked l.stream
      have counted := LockBook.Counted.new.run steps (by omega)
      have positive := (counted.issued _ (booked.issued l hl rfl)).1
      rw [free] at positive
      exact absurd positive (by decide)
    · exact .inl (Option.isSome_iff_ne_none.mpr closed)
  · have effect := h.effect
    rw [hcall, hresult] at effect
    exact effect.opened sound.closed
  · have effect := h.effect
    rw [hf] at effect
    rcases effect.failed with unsent | ⟨handle, baud, words⟩
    · exact .inl unsent
    · exact .inr ⟨handle, baud, words .readable, words .writable⟩

/-! ### A port whose writer is stuck -/

namespace Berth

variable (system : (op : SystemOp) → op.Answer) (view : NativePort) (b : Berth) (call : PortCall)

/-- A call, as the system answers it. -/
def deed : PortDeed :=
  let p := call.program view b.cell
  let serve (op : SystemOp) (s : Unit) := (system op, s)
  ⟨view, call, p.talk serve (), (p.run serve ()).1.1⟩

/-- A device after a call, as the system answers it. -/
def after : Berth :=
  let serve (op : SystemOp) (s : Unit) := (system op, s)
  ⟨((call.program view b.cell).run serve ()).1.2, b.leases ++ leasesOf (b.deed system view call).result,
    fun s => b.asked s + call.asks s⟩

theorem step_after : b.Step (b.deed system view call) (b.after system view call) :=
  ⟨yields_run (S := System) _ _ _, rfl, fun _ => rfl⟩

variable {b} in
theorem Reach.after (reach : b.Reach) : (b.after system view call).Reach :=
  Run.step reach (b.step_after system view call) trivial

end Berth

/-- A system on which ports open, but nothing that is written can be sent. -/
def jammed : (op : SystemOp) → op.Answer
  | .openDevice _ _ _ | .clone _ => .ok 1
  | .setBaud _ _ => .ok ()
  | .flush _ => .error "Input/output error"
  | .read _ _ => .error .timedOut
  | .write _ _ => .ok 0
  | .drop _ | .sleep _ | .log _ _ | .note _ => ()

/-- A view of a device. -/
def plainView : NativePort := ⟨.bare "/dev/ttyACM0", 1000, 0⟩

/-- A device whose port was opened and whose writer is taken. -/
def Berth.written : Berth :=
  (Berth.new.after jammed plainView (.openAt 115200)).after jammed plainView (.lease .writable)

theorem Berth.Reach.written : Berth.written.Reach :=
  Reach.after _ _ _ (Reach.after _ _ _ .here)

/-- The writer holds its stream, so the port is open; it cannot be closed, and stays as it is. -/
theorem written_port_stays :
    let writer : Lease := ⟨.writable, 1, 1⟩
    let d := Berth.written.deed jammed plainView .close
    let b' := Berth.written.after jammed plainView .close
    Berth.written.Reach ∧ writer ∈ Berth.written.leases ∧ writer.isLive Berth.written.cell = true ∧
    Berth.written.cell.handle.isSome = true ∧
    Berth.written.Step d b' ∧ d.result = .error (.locked .writable) ∧
    b'.cell.handle = some 1 ∧ b'.cell.writer.holder = 1 := by
  intro writer d b'
  obtain ⟨-, opens, steps⟩ := port_sound Berth.Reach.written
  have step : Berth.written.Step d b' := Berth.step_after _ _ _ _
  have refused : d.result = .error (.locked .writable) := rfl
  have live : writer.isLive Berth.written.cell = true := by decide
  have isOpen : Berth.written.cell.handle.isSome = true := by
    rcases opens writer (by decide) live with isOpen | ⟨free, -⟩
    · exact isOpen
    · exact absurd free (by decide)
  refine ⟨Berth.Reach.written, by decide, live, isOpen, step, refused, ?_⟩
  rcases (steps d b' step).2 _ refused with ⟨other, -⟩ | ⟨handle, -, -, word⟩
  · cases other
  · exact ⟨handle, word⟩

end FlashStation

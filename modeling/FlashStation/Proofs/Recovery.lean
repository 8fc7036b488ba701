/-
# Reclaiming brings a device back

A reclaim is a stay at a device: it works on the shared state, and while it waits for a lock or for
the port to settle, others may work on the device too. As long as they neither open the port nor
take a lease, a port stays closed once it is closed, a lock stays free once it is free, and no
lock comes to be held. So the reclaim frees the reader, then the writer, and then closes the port.
One thing can go wrong: a lease holds the writer, and what it has written cannot be sent. Then the
writer is left revoked and the port open, and that is what the next reclaim can deal with, because a
writer that is revoked already is not asked to send anything.

Key definitions: `Berth.Meanwhile`, `Stay`, `Program.Secures`, `Cell.IsFreed`.
Key theorems: `Stay.weave`, `Stay.meanwhile`, `reclaim_secures`, `reclaim_recovers`.
-/
import FlashStation.Proofs.Berth

namespace FlashStation

open Program

/-- A view as a port at hand. -/
def NativePort.port (view : NativePort) : Port := ⟨view.info.name, view.info⟩

/-- A port is closed and both its streams are free. -/
def Cell.IsFreed (c : Cell) : Prop :=
  c.handle = none ∧ c.reader.holder = StreamLock.free ∧ c.writer.holder = StreamLock.free

/-! ### What others may do meanwhile -/

namespace Berth

/-- Others work on the device, and neither open the port nor take a lease. -/
def Meanwhile (b b' : Berth) : Prop := Run PortDeed.Modest b b'

variable {b b' : Berth} {d : PortDeed}

theorem Step.stays_closed (h : b.Step d b') (modest : d.Modest) (closed : b.cell.handle = none) :
    b'.cell.handle = none := by
  have effect := h.effect
  generalize b'.cell = c' at effect ⊢
  generalize hcall : d.call = call at effect
  generalize hresult : d.result = result at effect
  cases effect with
  | fails | switches => exact closed
  | misses | unsent | leases | givesBack | stops | frees =>
    rw [Cell.handle_setLock]
    exact closed
  | opens => exact absurd hresult (modest.2 _ _ hcall)
  | closes => rfl

theorem Step.word (h : b.Step d b') (modest : d.Modest) (s : StreamKind) :
    (b'.cell.lock s).holder = (b.cell.lock s).holder ∨
      (b'.cell.lock s).holder = StreamLock.free ∨
      (b'.cell.lock s).holder = StreamLock.revoked ∧ (b.cell.lock s).holder ≠ StreamLock.free := by
  rcases (h.effect.lock s).word with same | freed | stopped | ⟨l, out, -, -⟩
  · exact .inl same
  · exact .inr (.inl freed)
  · exact .inr (.inr stopped)
  · have := modest.1
    rw [out] at this
    cases this

namespace Meanwhile

theorem refl (b : Berth) : b.Meanwhile b := .here

theorem reach (h : b.Meanwhile b') (reach : b.Reach) : b'.Reach := reach.run h

theorem sound (h : b.Meanwhile b') (sound : b.Sound) : b'.Sound := by
  induction h with
  | here => exact sound
  | step _ hs _ ih => exact ih.step hs

theorem leases (h : b.Meanwhile b') : b'.leases = b.leases := by
  induction h with
  | here => rfl
  | step _ hs modest ih => rw [hs.leases, modest.1, List.append_nil, ih]

theorem closed (h : b.Meanwhile b') (closed : b.cell.handle = none) : b'.cell.handle = none := by
  induction h with
  | here => exact closed
  | step _ hs modest ih => exact hs.stays_closed modest ih

/-- The word of a lock stays, or the lock is free, or it was not free and is revoked. -/
theorem word (h : b.Meanwhile b') (s : StreamKind) :
    (b'.cell.lock s).holder = (b.cell.lock s).holder ∨
      (b'.cell.lock s).holder = StreamLock.free ∨
      (b'.cell.lock s).holder = StreamLock.revoked ∧ (b.cell.lock s).holder ≠ StreamLock.free := by
  induction h with
  | here => exact .inl rfl
  | step _ hs modest ih =>
    rcases hs.word modest s with same | freed | ⟨stopped, was⟩
    · rwa [same]
    · exact .inr (.inl freed)
    · refine .inr (.inr ⟨stopped, fun free => ?_⟩)
      rcases ih with same | freed | ⟨-, still⟩
      · exact was (same.trans free)
      · exact was freed
      · exact still free

/-- A lock that is free stays free. -/
theorem unlocked (h : b.Meanwhile b') {s : StreamKind}
    (free : (b.cell.lock s).holder = StreamLock.free) :
    (b'.cell.lock s).holder = StreamLock.free := by
  rcases h.word s with same | freed | ⟨-, was⟩
  · exact same.trans free
  · exact freed
  · exact absurd free was

theorem freed (h : b.Meanwhile b') (freed : b.cell.IsFreed) : b'.cell.IsFreed :=
  ⟨h.closed freed.1, h.unlocked (s := .readable) freed.2.1, h.unlocked (s := .writable) freed.2.2⟩

end Meanwhile

end Berth

/-! ### Stays -/

/-- A program on a port's handle is carried out on a device. Each of its operations works on the
shared state at that moment; while it sleeps, others may work on the device. -/
inductive Stay {α : Type} :
    Program Link α → Berth → List (Exchange System) → α → Berth → Prop where
  | ends (a : α) (b : Berth) : Stay (.done a) b [] a b
  | works {op : LinkOp} {next : op.Answer → Program Link α} {b b' : Berth} {cell : Cell}
      {talk rest : List (Exchange System)} {answer : op.Answer} {a : α}
      (own : (Cell.serveLink op b.cell).Yields talk (answer, cell))
      (later : Stay (next answer) { b with cell } rest a b') :
      Stay (.call op next) b (talk ++ rest) a b'
  | sleeps {ms : Nat} {next : Unit → Program Link α} {b b' b'' : Berth}
      {rest : List (Exchange System)} {a : α} (others : b.Meanwhile b')
      (later : Stay (next ()) b' rest a b'') :
      Stay (.call (.sleep ms) next) b (⟨.sleep ms, ()⟩ :: rest) a b''

/-- A program that works on the shared state undisturbed is a stay. -/
theorem Stay.weave {α : Type} {p : Program Link α} {b : Berth} {talk : List (Exchange System)}
    {a : α} {cell : Cell} (h : (p.weave Cell.serveLink b.cell).Yields talk (a, cell)) :
    Stay p b talk a { b with cell } := by
  induction p generalizing b talk with
  | done a =>
    obtain ⟨rfl, same⟩ := h.done_inv
    cases same
    exact .ends _ b
  | call op next ih =>
    obtain ⟨⟨answer, between⟩, before, after, rfl, own, later⟩ := h.bind_inv
    exact .works own (ih answer (b := { b with cell := between }) later)

theorem leasesOf_noLease (r : Except PortFault Unit × Cell) :
    leasesOf (PortCall.noLease r).1 = [] := by
  obtain ⟨result, c⟩ := r
  cases result <;> rfl

/-- What a program only passes on to the system leaves the shared state as it is. -/
theorem Cell.passes_on {op : SystemOp} {c cell : Cell} {talk : List (Exchange System)}
    {answer : Unit} (h : Program.Yields (S := System) (.call op fun _ => .done ((), c)) talk
      (answer, cell)) : (∃ heard, talk = [⟨op, heard⟩]) ∧ cell = c := by
  obtain ⟨heard, _, rfl, rest⟩ := Yields.call_inv (S := System) _ h
  obtain ⟨rfl, same⟩ := Yields.done_inv rest
  cases same
  exact ⟨⟨heard, rfl⟩, rfl⟩

namespace Berth.Meanwhile

variable {b : Berth} {talk : List (Exchange System)} {cell : Cell}

/-- A call that makes no lease and does not open the port. -/
theorem call (view : NativePort) (call : PortCall) {r : Except PortFault Unit × Cell}
    (h : (call.program view b.cell).Yields talk (PortCall.noLease r))
    (asks : ∀ s, call.asks s = 0) (opens : ∀ baud, call ≠ .openAt baud) :
    b.Meanwhile { b with cell := r.2 } := by
  have noLease := leasesOf_noLease r
  refine .step (d := ⟨view, call, talk, (PortCall.noLease r).1⟩) .here ⟨h, ?_, fun s => ?_⟩
    ⟨noLease, fun baud _ hb => absurd hb (opens baud)⟩
  · rw [noLease, List.append_nil]
  · rw [asks s]
    rfl

/-- **What an operation of a program does to the shared state, a call does,** or nothing does. -/
theorem own {op : LinkOp} {answer : op.Answer}
    (h : (Cell.serveLink op b.cell).Yields talk (answer, cell)) :
    b.Meanwhile { b with cell } := by
  have none (s : StreamKind) (call : PortCall) (hc : ∀ s, call ≠ .lease s) : call.asks s = 0 := by
    cases call with
    | lease s => exact absurd rfl (hc s)
    | _ => rfl
  cases op with
  | streams port =>
    obtain ⟨-, same⟩ := Yields.done_inv h
    cases same
    exact refl b
  | cancelReader port =>
    exact call ⟨port.info, 0, 0⟩ .cancelReader (h.bind (.done _))
      (fun s => none s _ nofun) nofun
  | releaseReader port =>
    obtain ⟨-, same⟩ := Yields.done_inv h
    cases same
    exact call ⟨port.info, 0, 0⟩ .releaseReader (.done _)
      (fun s => none s _ nofun) nofun
  | closeWriter port =>
    exact call ⟨port.info, 0, 0⟩ .closeWriter (h.bind (.done _))
      (fun s => none s _ nofun) nofun
  | releaseWriter port =>
    obtain ⟨-, same⟩ := Yields.done_inv h
    cases same
    exact call ⟨port.info, 0, 0⟩ .releaseWriter (.done _)
      (fun s => none s _ nofun) nofun
  | close port =>
    exact call ⟨port.info, 0, 0⟩ .close (h.bind (.done _))
      (fun s => none s _ nofun) nofun
  | sleep _ | log _ _ | note _ =>
    obtain ⟨-, rfl⟩ := Cell.passes_on h
    exact refl b

end Berth.Meanwhile

/-- **A stay neither opens the port nor takes a lease.** -/
theorem Stay.meanwhile {α : Type} {p : Program Link α} {b b' : Berth}
    {talk : List (Exchange System)} {a : α} (h : Stay p b talk a b') : b.Meanwhile b' := by
  induction h with
  | ends a b => exact .refl b
  | works own _ ih => exact (Berth.Meanwhile.own own).trans ih
  | sleeps others _ ih => exact others.trans ih

theorem Stay.bind_inv {α β : Type} {p : Program Link α} {k : α → Program Link β} {b b' : Berth}
    {talk : List (Exchange System)} {c : β} (h : Stay (p.bind k) b talk c b') :
    ∃ a between before after, talk = before ++ after ∧ Stay p b before a between ∧
      Stay (k a) between after c b' := by
  induction p generalizing b talk with
  | done a => exact ⟨a, b, [], talk, rfl, .ends a b, h⟩
  | call op next ih =>
    rw [call_bind] at h
    cases h with
    | @works _ _ _ _ cell said rest answer _ own later =>
      obtain ⟨a, between, before, after, rfl, first, second⟩ := ih answer later
      exact ⟨a, between, said ++ before, after, (List.append_assoc _ _ _).symm, .works own first,
        second⟩
    | sleeps others later =>
      obtain ⟨a, between, before, after, rfl, first, second⟩ := ih () later
      exact ⟨a, between, _ :: before, after, rfl, .sleeps others first, second⟩

/-! ### What a program secures -/

/-- Whatever happens during its stay, the program ends as `Q` says: with this value, after these
failures to send, on this device. -/
def Program.Secures {α : Type} (p : Program Link α) (b : Berth)
    (Q : α → List String → Berth → Prop) : Prop :=
  ∀ talk a b', Stay p b talk a b' → Q a (flushFailures talk) b'

namespace Program.Secures

variable {α β : Type} {b : Berth} {port : Port} {P : α → List String → Berth → Prop}
  {Q : β → List String → Berth → Prop}

theorem done {a : α} (h : P a [] b) : (.done a : Program Link α).Secures b P := by
  intro talk a' b' stay
  cases stay
  exact h

theorem bind {p : Program Link α} {k : α → Program Link β} (first : p.Secures b P)
    (second : ∀ a failures b', P a failures b' → b.Meanwhile b' →
      (k a).Secures b' fun c more => Q c (failures ++ more)) :
    (p.bind k).Secures b Q := by
  intro talk c b' stay
  obtain ⟨a, between, before, after, rfl, hp, hk⟩ := stay.bind_inv
  rw [flushFailures_append]
  exact second a _ between (first _ _ _ hp) hp.meanwhile _ _ _ hk

/-- An operation that does not sleep. -/
theorem works {op : LinkOp} {next : op.Answer → Program Link β} (awake : ∀ ms, op ≠ .sleep ms)
    (h : ∀ talk answer cell, (Cell.serveLink op b.cell).Yields talk (answer, cell) →
      (next answer).Secures { b with cell } fun c more => Q c (flushFailures talk ++ more)) :
    (.call op next : Program Link β).Secures b Q := by
  intro talk c b' stay
  cases stay with
  | @works _ _ _ _ cell said rest answer _ own later =>
    rw [flushFailures_append]
    exact h said answer cell own _ _ _ later
  | sleeps => exact absurd rfl (awake _)

/-- Looking at the streams shows those of the shared state. -/
theorem streams {k : Streams → Program Link β} (h : (k b.cell.streams).Secures b Q) :
    ((Link.streams port).bind k).Secures b Q := by
  refine works nofun fun talk answer cell own => ?_
  obtain ⟨rfl, same⟩ := Yields.done_inv own
  cases same
  exact h

theorem log {variant : Variant} {message : String} {k : Unit → Program Link β}
    (h : (k ()).Secures b Q) : ((Link.log variant message).bind k).Secures b Q := by
  refine works nofun fun talk answer cell own => ?_
  obtain ⟨⟨_, rfl⟩, rfl⟩ := Cell.passes_on own
  exact h

theorem note {n : Note} {k : Unit → Program Link β} (h : (k ()).Secures b Q) :
    ((Program.perform (S := Link) (.note n)).bind k).Secures b Q := by
  refine works nofun fun talk answer cell own => ?_
  obtain ⟨⟨_, rfl⟩, rfl⟩ := Cell.passes_on own
  exact h

theorem sleep {ms : Nat} {k : Unit → Program Link β}
    (h : ∀ b', b.Meanwhile b' → (k ()).Secures b' Q) : ((Link.sleep ms).bind k).Secures b Q := by
  intro talk c b' stay
  cases stay with
  | works own later =>
    obtain ⟨⟨_, rfl⟩, rfl⟩ := Cell.passes_on own
    -- the wait is no failure to send
    have secured := h b (.refl b) _ _ _ later
    exact secured
  | sleeps others later =>
    have secured := h _ others _ _ _ later
    exact secured

end Program.Secures

/-! ### The parts of a reclaim -/

namespace Cell

theorem isOpen_streams (c : Cell) : c.streams.isOpen = c.handle.isSome := by
  unfold streams
  cases c.handle <;> rfl

theorem isLocked_streams (c : Cell) (s : StreamKind) :
    c.streams.isLocked s = true ↔
      c.handle.isSome = true ∧ (c.lock s).holder ≠ StreamLock.free := by
  unfold streams
  cases s <;> cases c.handle <;>
    simp [Streams.isLocked, Streams.readableLocked, Streams.writableLocked, Streams.closed, lock,
      StreamLock.isLocked]

end Cell

/-- A stream that does not show as locked is free, be the port open or closed. -/
theorem Berth.Sound.unlocked {b : Berth} (sound : b.Sound) {s : StreamKind}
    (unlocked : ¬b.cell.streams.isLocked s = true) : (b.cell.lock s).holder = StreamLock.free := by
  by_contra held
  cases hh : b.cell.handle with
  | none => exact held (sound.closed hh s)
  | some handle =>
    refine unlocked ((b.cell.isLocked_streams s).mpr ⟨?_, held⟩)
    rw [hh]
    rfl

section
variable {b : Berth} {port : Port} (delays : Delays) {context : String}

theorem freeReader_secures (isOpen : b.cell.handle.isSome = true) :
    (Link.freeReader port).Secures b fun r failures b' =>
      r = .ok () ∧ failures = [] ∧ b'.cell.reader.holder = StreamLock.free := by
  refine .works nofun fun talk answer cell own => ?_
  obtain ⟨quiet, ⟨closed, -, -⟩ | ⟨-, hr, -⟩⟩ := Cell.cancelReader_yields own
  · rw [closed] at isOpen
    cases isOpen
  · subst hr
    refine .works nofun fun talk' answer' cell' own' => ?_
    obtain ⟨rfl, same⟩ := Yields.done_inv own'
    cases same
    exact .done ⟨rfl, by rw [quiet]; rfl, rfl⟩

/-- A writer that is revoked already gives up its lock as well as one that could send all. -/
theorem freeWriter_secures (isOpen : b.cell.handle.isSome = true) :
    (Link.freeWriter port).Secures b fun r failures b' =>
      (r = .ok () ∧ failures = [] ∧ b'.cell.writer.holder = StreamLock.free) ∨
      ∃ message, r = .error (.io message) ∧ failures = [message] ∧
        b.cell.writer.holder ≠ StreamLock.revoked ∧
        b'.cell = b.cell.setLock .writable b.cell.writer.revoke := by
  refine .works nofun fun talk answer cell own => ?_
  -- the lock is freed once the writer is stopped
  have frees (quiet : flushFailures talk = []) :
      (Program.perform (S := Link) (.releaseWriter port)).Secures { b with cell }
        fun r more b' => (r = .ok () ∧ flushFailures talk ++ more = [] ∧
          b'.cell.writer.holder = StreamLock.free) ∨
        ∃ message, r = .error (.io message) ∧ flushFailures talk ++ more = [message] ∧
          b.cell.writer.holder ≠ StreamLock.revoked ∧
          b'.cell = b.cell.setLock .writable b.cell.writer.revoke := by
    refine .works nofun fun talk' answer' cell' own' => ?_
    obtain ⟨rfl, same⟩ := Yields.done_inv own'
    cases same
    exact .done (.inl ⟨rfl, by rw [quiet]; rfl, rfl⟩)
  rcases Cell.closeWriter_yields own with ⟨-, closed, -, -⟩ | ⟨quiet, -, hr, -⟩ |
    ⟨-, live, hc, ⟨quiet, hr⟩ | ⟨message, failed, hr⟩⟩
  · rw [closed] at isOpen
    cases isOpen
  · subst hr
    exact frees quiet
  · subst hr
    exact frees quiet
  · subst hr
    exact .done (.inr ⟨message, rfl, by rw [failed]; rfl, live, hc⟩)

theorem freesReader_secures (sound : b.Sound) :
    (freeStream delays port context .readable (Link.freeReader port)).Secures b
      fun r failures b' => r = none ∧ failures = [] ∧
        b'.cell.reader.holder = StreamLock.free := by
  refine .streams ?_
  by_cases locked : b.cell.streams.isLocked .readable = true
  · rw [if_pos locked]
    have isOpen := ((b.cell.isLocked_streams .readable).mp locked).1
    refine .log (.bind (freeReader_secures isOpen) ?_)
    rintro r failures b₁ ⟨rfl, rfl, free⟩ -
    refine .log (.sleep fun b₂ others => ?_)
    exact .done ⟨rfl, rfl, others.unlocked (s := .readable) free⟩
  · rw [if_neg locked]
    exact .done ⟨rfl, rfl, sound.unlocked locked⟩

theorem freesWriter_secures (sound : b.Sound) :
    (freeStream delays port context .writable (Link.freeWriter port)).Secures b
      fun r failures b' =>
        (r = none ∧ failures = [] ∧ b'.cell.writer.holder = StreamLock.free) ∨
        ∃ message, r = some (.lockRelease .writable (.io message)) ∧ failures = [message] ∧
          b.cell.writer.holder ≠ StreamLock.free ∧ b.cell.writer.holder ≠ StreamLock.revoked ∧
          b'.cell.handle.isSome = true ∧ b'.cell.writer.holder = StreamLock.revoked := by
  refine .streams ?_
  by_cases locked : b.cell.streams.isLocked .writable = true
  · rw [if_pos locked]
    obtain ⟨isOpen, held⟩ := (b.cell.isLocked_streams .writable).mp locked
    refine .log (.bind (freeWriter_secures isOpen) ?_)
    rintro r failures b₁ (⟨rfl, rfl, free⟩ | ⟨message, rfl, rfl, live, hc⟩) -
    · refine .log (.sleep fun b₂ others => ?_)
      exact .done (.inl ⟨rfl, rfl, others.unlocked (s := .writable) free⟩)
    · refine .log (.done (.inr ⟨message, rfl, rfl, held, live, ?_, ?_⟩))
      · rw [hc, Cell.handle_setLock]
        exact isOpen
      · rw [hc]
        exact (StreamLock.holder_revoke _).trans (if_neg held)
  · rw [if_neg locked]
    exact .done (.inl ⟨rfl, rfl, sound.unlocked locked⟩)

theorem closePort_secures :
    (closePort delays port context).Secures b fun r failures b' => failures = [] ∧
      ((∀ s, (b.cell.lock s).holder = StreamLock.free) → r = none ∧ b'.cell.IsFreed) ∧
      ((∃ s, (b.cell.lock s).holder ≠ StreamLock.free) → b'.cell = b.cell) := by
  refine .streams ?_
  rw [Cell.isOpen_streams]
  cases hh : b.cell.handle with
  | none =>
    exact .done ⟨rfl, fun free => ⟨rfl, hh, free .readable, free .writable⟩, fun _ => rfl⟩
  | some handle =>
    refine .works nofun fun talk answer cell own => ?_
    obtain ⟨quiet, ⟨fault, hr, hc, why⟩ | ⟨-, free, hr, hc⟩⟩ := Cell.close_yields own
    · subst hr hc
      refine .log (.done ⟨by rw [quiet]; rfl, fun free => ?_, fun _ => rfl⟩)
      rcases why with closed | ⟨s, held⟩
      · rw [hh] at closed
        cases closed
      · exact absurd (free s) held
    · subst hr hc
      refine .log (.sleep fun b₁ others => .done ⟨by rw [quiet]; rfl, fun _ => ?_, ?_⟩)
      · exact ⟨rfl, others.freed ⟨rfl, free .readable, free .writable⟩⟩
      · rintro ⟨s, held⟩
        exact absurd (free s) held

/-- **A reclaim leaves the port closed and both its streams free,** or it could not send what a
lease had written, and leaves the writer revoked. -/
theorem reclaim_secures (sound : b.Sound) :
    (reclaim delays port context).Secures b fun r failures b' =>
      (r = .ok () ∧ failures = [] ∧ b'.cell.IsFreed) ∨
      ∃ message, r = .error (.lockRelease .writable (.io message)) ∧ failures = [message] ∧
        b.cell.writer.holder ≠ StreamLock.free ∧ b.cell.writer.holder ≠ StreamLock.revoked ∧
        b'.cell.handle.isSome = true ∧ b'.cell.writer.holder = StreamLock.revoked := by
  refine .streams ?_
  rw [Cell.isOpen_streams]
  cases hh : b.cell.handle with
  | none =>
    refine .log (.done (.inl ⟨rfl, rfl, hh, ?_, ?_⟩))
    · exact sound.closed hh .readable
    · exact sound.closed hh .writable
  | some handle =>
    refine .log (.streams (.log (.bind (freesReader_secures delays sound) ?_)))
    rintro _ _ b₁ ⟨rfl, rfl, reader⟩ first
    refine .bind (freesWriter_secures delays (first.sound sound)) ?_
    rintro _ _ b₂ writer second
    refine .streams (.log (.bind (closePort_secures delays) ?_))
    rintro closing _ b₃ ⟨rfl, closes, stays⟩ -
    refine .streams (.note ?_)
    have reader₂ := second.unlocked (s := .readable) reader
    rcases writer with ⟨rfl, rfl, writer⟩ | ⟨message, rfl, rfl, held, live, isOpen, revoked⟩
    · obtain ⟨rfl, freed⟩ := closes fun s => by cases s <;> assumption
      exact .done (.inl ⟨rfl, rfl, freed⟩)
    · -- the writer was held from the beginning on
      have same : b₁.cell.writer.holder = b.cell.writer.holder := by
        rcases first.word .writable with same | free | ⟨stopped, -⟩
        · exact same
        · exact absurd free held
        · exact absurd stopped live
      have kept := stays ⟨.writable, fun free => by
        have : StreamLock.revoked = StreamLock.free := revoked.symm.trans free
        exact absurd this (by decide)⟩
      rw [same] at held live
      exact .done (.inr ⟨message, rfl, rfl, held, live, by rwa [kept], by rwa [kept]⟩)

end

/-! ### Leases that were made before -/

namespace Berth

variable {b b' : Berth} {l : Lease}

/-- A lease whose stream was free at some moment never holds it again, up to where the counter goes
round. -/
theorem Reach.stale (reach : b.Reach) (hl : l ∈ b.leases)
    (free : (b.cell.lock l.stream).holder = StreamLock.free) {may : PortDeed → Prop}
    (run : Run may b b') (few : b'.asked l.stream < 2 ^ 64 - 1) : l.isLive b'.cell = false := by
  obtain ⟨before, tries, booked⟩ := reach.booked l.stream
  obtain ⟨after, more, later⟩ := run.booked booked
  have counted := LockBook.Counted.new.run before (by omega)
  have issued := counted.issued _ (booked.issued l hl rfl)
  have lost : (LockBook.new.run before).lock.isHeldBy l.number = false := by
    rw [booked.lock, StreamLock.isHeldBy, free, beq_eq_false_iff_ne]
    rintro same
    rw [← same] at issued
    exact absurd issued.1 (by decide)
  have := counted.lost_run after (by omega) issued lost
  rwa [later.lock] at this

end Berth

/-- **Reclaiming brings a device back.** Take any device that calls have worked on, and a reclaim
through any of its views, while others neither open the port nor take a lease. Left alone, a reclaim
comes to an end in one such way, whatever the system answers. It leaves the port closed and both its
streams free and gives back that all is well, unless a lease held the writer and what it had written
could not be sent: then it gives back that failure, and leaves the port open and the writer revoked.
After a second reclaim, through any view, the port is closed and both its streams are free, as every
view shows, and no lease that was given out before ever holds its stream again, up to where a
counter of 64 bits goes round. -/
theorem reclaim_recovers {b : Berth} (reach : b.Reach) (view : NativePort) (delays : Delays)
    (context : String) :
    (∀ (σ : Type) (system : (op : SystemOp) → σ → op.Answer × σ) (s : σ),
      let p := Cell.reclaimed delays view.info context b.cell
      Stay (reclaim delays view.port context) b (p.talk system s) (p.run system s).1.1
        { b with cell := (p.run system s).1.2 }) ∧
    ∀ talk r b₁, Stay (reclaim delays view.port context) b talk r b₁ →
      ((flushFailures talk = [] ∧ r = .ok () ∧ b₁.cell.IsFreed) ∨
        ∃ message, flushFailures talk = [message] ∧
          (∃ l ∈ b.leases, l.stream = .writable ∧ l.isLive b.cell = true) ∧
          r = .error (.lockRelease .writable (.io message)) ∧
          b₁.cell.handle.isSome = true ∧ b₁.cell.writer.holder = StreamLock.revoked) ∧
      ∀ b₂, b₁.Meanwhile b₂ → ∀ (view' : NativePort) (delays' : Delays) (context' : String),
        ∀ talk' r' b₃, Stay (reclaim delays' view'.port context') b₂ talk' r' b₃ →
          r' = .ok () ∧ b₃.cell.IsFreed ∧
          (∀ port : Port, Cell.serveLink (.streams port) b₃.cell = .done (.closed, b₃.cell)) ∧
          ∀ later, Berth.Run (fun _ => True) b₃ later →
            ∀ l ∈ b.leases, later.asked l.stream < 2 ^ 64 - 1 → l.isLive later.cell = false := by
  have sound := reach.sound
  refine ⟨fun σ system s => Stay.weave (yields_run _ _ _), fun talk r b₁ first => ?_⟩
  have recovers := reclaim_secures delays sound _ _ _ first
  refine ⟨?_, fun b₂ others view' delays' context' talk' r' b₃ second => ?_⟩
  · refine recovers.imp (fun ⟨hr, quiet, freed⟩ => ⟨quiet, hr, freed⟩) ?_
    rintro ⟨message, hr, failed, held, live, isOpen, revoked⟩
    refine ⟨message, failed, ?_, hr, isOpen, revoked⟩
    rcases sound.held .writable with free | stopped | holder
    · exact absurd free held
    · exact absurd stopped live
    · exact holder
  · have between := first.meanwhile.trans others
    -- no lease holds the writer when the second reclaim begins
    have word : b₂.cell.writer.holder = StreamLock.free ∨
        b₂.cell.writer.holder = StreamLock.revoked := by
      rcases others.word .writable with same | free | ⟨stopped, -⟩
      · rcases recovers with ⟨-, -, freed⟩ | ⟨_, -, -, -, -, -, revoked⟩
        · exact .inl (same.trans freed.2.2)
        · exact .inr (same.trans revoked)
      · exact .inl free
      · exact .inr stopped
    have secured := reclaim_secures delays' (Berth.Meanwhile.sound between sound) _ _ _ second
    obtain ⟨hr, -, freed⟩ | ⟨_, -, -, held, live, -⟩ := secured
    · have all := between.trans second.meanwhile
      refine ⟨hr, freed, fun port => ?_, fun later run l hl few => ?_⟩
      · have closed : b₃.cell.streams = .closed := by rw [Cell.streams, freed.1]
        rw [Cell.serveLink, closed]
        rfl
      · have free : (b₃.cell.lock l.stream).holder = StreamLock.free := by
          cases l.stream
          · exact freed.2.1
          · exact freed.2.2
        rw [← Berth.Meanwhile.leases all] at hl
        exact (Berth.Meanwhile.reach all reach).stale hl free run few
    · rcases word with free | stopped
      · exact absurd free held
      · exact absurd stopped live

/-- A reclaim of a device, undisturbed, as the system answers it. -/
def Berth.reclaimed (system : (op : SystemOp) → op.Answer) (view : NativePort) (b : Berth) :
    Except ReclaimFault Unit × Berth :=
  let r := (Cell.reclaimed ⟨100, 200⟩ view.info "known" b.cell).run (fun op s => (system op, s)) ()
  (r.1.1, { b with cell := r.1.2 })

/-- A writer holds its stream, and nothing it has written can be sent. The first reclaim leaves the
port open and the writer revoked, the second one closes the port; when the port is open again and
has another writer, the first one does not hold the stream. -/
theorem stuck_writer_recovers :
    let writer : Lease := ⟨.writable, 1, 1⟩
    let first := Berth.written.reclaimed jammed plainView
    let second := first.2.reclaimed jammed plainView
    let later := (second.2.after jammed plainView (.openAt 9600)).after jammed plainView
      (.lease .writable)
    Berth.written.Reach ∧ writer ∈ Berth.written.leases ∧
    first.1 = .error (.lockRelease .writable (.io "Input/output error")) ∧
    first.2.cell.writer.holder = StreamLock.revoked ∧
    second.1 = .ok () ∧ second.2.cell.IsFreed ∧
    later.cell.writer.holder = 2 ∧ writer.isLive later.cell = false := by
  intro writer first second later
  obtain ⟨alone, stays⟩ := reclaim_recovers Berth.Reach.written plainView ⟨100, 200⟩ "known"
  obtain ⟨-, again⟩ := stays _ _ _ (alone Unit (fun op s => (jammed op, s)) ())
  have reach : first.2.Reach := Berth.Reach.written.run
    (Stay.meanwhile (alone Unit (fun op s => (jammed op, s)) ()))
  obtain ⟨alone', -⟩ := reclaim_recovers reach plainView ⟨100, 200⟩ "known"
  obtain ⟨ok, freed, -, stale⟩ := again first.2 (.refl _) plainView ⟨100, 200⟩ "known" _ _ _
    (alone' Unit (fun op s => (jammed op, s)) ())
  have run : Berth.Run (fun _ => True) second.2 later :=
    .step (.step .here (Berth.step_after _ _ _ _) trivial) (Berth.step_after _ _ _ _) trivial
  exact ⟨Berth.Reach.written, by decide, rfl, by decide, ok, freed, by decide,
    stale later run writer (by decide) (by decide)⟩

end FlashStation

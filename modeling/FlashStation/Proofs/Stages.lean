/-
# The stages of a reclaim

A reclaim asks a handle for its streams again before each of its three stages, and the handle may
answer differently each time. A stage has nothing to do, or it works, or it fails; whatever it
comes to, the next one follows. Each failure is told in the trail, and the first one is the
outcome.

So nothing is assumed of the handle: these are statements on what is asked of it, one call after
the other, and on what that makes the outcome.

Key definitions: `LinkOp.onHandle`, `Outcome`, `Frees`, `Closes`, `Looks`, `Part`, `Shuttable`.
Key theorems: `freeStream_part`, `closePort_part`, `reclaim_talk`, `reclaim_stages`.
-/
import FlashStation.Proofs.Talk
import FlashStation.Serial.Link

namespace FlashStation

open Program

/-! ### What a reclaim asks and leaves -/

/-- Whether an operation is a call of the handle, and no wait or record. -/
def LinkOp.onHandle : LinkOp → Bool
  | .sleep _ | .log _ _ | .note _ => false
  | .streams _ | .cancelReader _ | .releaseReader _ | .closeWriter _ | .releaseWriter _
  | .close _ => true

namespace Link

/-- The calls of the handle, with the answers. -/
def handled (talk : List (Exchange Link)) : List (Exchange Link) :=
  talk.filter (·.op.onHandle)

/-- The entry of the trail that an operation adds. -/
def entry? (e : Exchange Link) : Option (Variant × String) :=
  match e.op with
  | .log variant message => some (variant, message)
  | _ => none

/-- The entries that are added to the trail. -/
def entries (talk : List (Exchange Link)) : List (Variant × String) :=
  talk.filterMap entry?

/-- The texts of the entries on failures. -/
def complaints (talk : List (Exchange Link)) : List String :=
  ((entries talk).filter (·.1 == .error)).map (·.2)

/-- How long an operation waits. -/
def pause (e : Exchange Link) : Nat :=
  match e.op with
  | .sleep ms => ms
  | _ => 0

/-- The time that is slept, in milliseconds. -/
def slept : List (Exchange Link) → Nat
  | [] => 0
  | e :: talk => pause e + slept talk

/-- A look at the streams. -/
def look (port : Port) (seen : Streams) : Exchange Link :=
  ⟨.streams port, seen⟩

theorem look_inj {port : Port} {a b : Streams} (h : look port a = look port b) : a = b := by
  cases h
  rfl

@[simp] theorem handled_append (a b : List (Exchange Link)) :
    handled (a ++ b) = handled a ++ handled b :=
  List.filter_append a b

@[simp] theorem complaints_append (a b : List (Exchange Link)) :
    complaints (a ++ b) = complaints a ++ complaints b := by
  simp [complaints, entries]

@[simp] theorem slept_append (a b : List (Exchange Link)) :
    slept (a ++ b) = slept a + slept b := by
  induction a with
  | nil => exact (Nat.zero_add _).symm
  | cons e a ih => rw [List.cons_append, slept, slept, ih, Nat.add_assoc]

end Link

/-- What a stage came to. -/
inductive Outcome where
  /-- There was nothing to do. -/
  | idle
  /-- It worked. -/
  | worked
  /-- It failed. -/
  | failed (fault : PortFault)
  deriving DecidableEq

namespace Outcome

/-- What a call came to. -/
def ofResult : Except PortFault Unit → Outcome
  | .ok () => worked
  | .error fault => failed fault

/-- Whether it failed. -/
def hasFailed : Outcome → Bool
  | idle | worked => false
  | failed _ => true

/-- The fault of a stage that failed. -/
def fault? (kind : PortFault → ReclaimFault) : Outcome → Option ReclaimFault
  | idle | worked => none
  | failed fault => some (kind fault)

/-- How long the port is left to settle. -/
def settle (ms : Nat) : Outcome → Nat
  | worked => ms
  | idle | failed _ => 0

end Outcome

/-- What is told of a failure. -/
def ReclaimFault.complaint (context : String) : ReclaimFault → String
  | .lockRelease s fault => s!"{context}: failed to release {s.text} lock: {fault.message}"
  | .close fault => s!"{context}: close failed - {fault.message}"

namespace StreamKind

/-- Who holds a stream is made to stop. -/
def stopping (port : Port) : StreamKind → Except PortFault Unit → Exchange Link
  | .readable, answer => ⟨.cancelReader port, answer⟩
  | .writable, answer => ⟨.closeWriter port, answer⟩

/-- The lock of a stream is taken. -/
def freeing (port : Port) : StreamKind → Except PortFault Unit → Exchange Link
  | .readable, answer => ⟨.releaseReader port, answer⟩
  | .writable, answer => ⟨.releaseWriter port, answer⟩

/-- Whoever holds a stream has stopped; a writer may have been at it already. -/
def Stops : StreamKind → Except PortFault Unit → Prop
  | .readable, answer => answer = .ok ()
  | .writable, answer => answer = .ok () ∨ answer = .error .writerClosing

end StreamKind

/-- The calls of the stage that frees a stream, and what it comes to. -/
inductive Frees (port : Port) (s : StreamKind) : Bool → List (Exchange Link) → Outcome → Prop where
  | unlocked : Frees port s false [] .idle
  | kept {fault : PortFault} (h : ¬s.Stops (.error fault)) :
      Frees port s true [s.stopping port (.error fault)] (.failed fault)
  | asked {answer : Except PortFault Unit} (h : s.Stops answer) (result : Except PortFault Unit) :
      Frees port s true [s.stopping port answer, s.freeing port result] (.ofResult result)

/-- The calls of the stage that closes the port, and what it comes to. -/
inductive Closes (port : Port) : Bool → List (Exchange Link) → Outcome → Prop where
  | closed : Closes port false [] .idle
  | asked (result : Except PortFault Unit) :
      Closes port true [⟨.close port, result⟩] (.ofResult result)

/-! ### The parts of a talk -/

/-- What a part of a talk adds to a reclaim: calls of the handle, failures that are told, and time
that is slept. -/
structure Part (context : String) (talk calls : List (Exchange Link)) (faults : List ReclaimFault)
    (time : Nat) : Prop where
  handled : Link.handled talk = calls
  complaints : Link.complaints talk = faults.map (·.complaint context)
  slept : Link.slept talk = time

namespace Part

variable {port : Port} {context : String} {talk calls : List (Exchange Link)}
  {faults : List ReclaimFault} {time : Nat}

theorem nil : Part context [] [] [] 0 := ⟨rfl, rfl, rfl⟩

theorem look (seen : Streams) (h : Part context talk calls faults time) :
    Part context (Link.look port seen :: talk) (Link.look port seen :: calls) faults time where
  handled := congrArg (Link.look port seen :: ·) h.handled
  complaints := h.complaints
  slept := (Nat.zero_add _).trans h.slept

theorem close (result : Except PortFault Unit) (h : Part context talk calls faults time) :
    Part context (⟨.close port, result⟩ :: talk) (⟨.close port, result⟩ :: calls) faults time where
  handled := congrArg (List.cons (⟨.close port, result⟩ : Exchange Link)) h.handled
  complaints := h.complaints
  slept := (Nat.zero_add _).trans h.slept

theorem trace (message : String) (h : Part context talk calls faults time) :
    Part context (⟨.log .trace message, ()⟩ :: talk) calls faults time where
  handled := h.handled
  complaints := h.complaints
  slept := (Nat.zero_add _).trans h.slept

theorem note (n : Note) (h : Part context talk calls faults time) :
    Part context (⟨.note n, ()⟩ :: talk) calls faults time where
  handled := h.handled
  complaints := h.complaints
  slept := (Nat.zero_add _).trans h.slept

theorem sleep (ms : Nat) (h : Part context talk calls faults time) :
    Part context (⟨.sleep ms, ()⟩ :: talk) calls faults (ms + time) where
  handled := h.handled
  complaints := h.complaints
  slept := congrArg (ms + ·) h.slept

theorem complain (fault : ReclaimFault) (h : Part context talk calls faults time) :
    Part context (⟨.log .error (fault.complaint context), ()⟩ :: talk) calls (fault :: faults)
      time where
  handled := h.handled
  complaints := congrArg (fault.complaint context :: ·) h.complaints
  slept := (Nat.zero_add _).trans h.slept

theorem of_eq {calls' : List (Exchange Link)} {faults' : List ReclaimFault} {time' : Nat}
    (h : Part context talk calls faults time) (hc : calls = calls') (hf : faults = faults')
    (ht : time = time') : Part context talk calls' faults' time' := by
  subst hc hf ht
  exact h

theorem append {talk' calls' : List (Exchange Link)} {faults' : List ReclaimFault} {time' : Nat}
    (h : Part context talk calls faults time) (h' : Part context talk' calls' faults' time') :
    Part context (talk ++ talk') (calls ++ calls') (faults ++ faults') (time + time') where
  handled := by rw [Link.handled_append, h.handled, h'.handled]
  complaints := by rw [Link.complaints_append, h.complaints, h'.complaints, List.map_append]
  slept := by rw [Link.slept_append, h.slept, h'.slept]

end Part

/-! ### One stage -/

section
variable {delays : Delays} {port : Port} {context : String} {talk : List (Exchange Link)}

/-- A look at the streams is one call of the handle. -/
theorem Link.look_inv {β : Type} {k : Streams → Program Link β} {b : β}
    (h : ((Link.streams port).bind k).Yields talk b) :
    ∃ seen rest, talk = Link.look port seen :: rest ∧ (k seen).Yields rest b :=
  Yields.call_inv (S := Link) _ h

theorem Link.log_inv {β : Type} {variant : Variant} {message : String} {k : Unit → Program Link β}
    {b : β} (h : ((Link.log variant message).bind k).Yields talk b) :
    ∃ rest, talk = ⟨.log variant message, ()⟩ :: rest ∧ (k ()).Yields rest b := by
  obtain ⟨_, rest, same, later⟩ := Yields.call_inv (S := Link) _ h
  exact ⟨rest, same, later⟩

theorem Link.sleep_inv {β : Type} {ms : Nat} {k : Unit → Program Link β} {b : β}
    (h : ((Link.sleep ms).bind k).Yields talk b) :
    ∃ rest, talk = ⟨.sleep ms, ()⟩ :: rest ∧ (k ()).Yields rest b := by
  obtain ⟨_, rest, same, later⟩ := Yields.call_inv (S := Link) _ h
  exact ⟨rest, same, later⟩

theorem freeReader_frees {r : Except PortFault Unit} (h : (Link.freeReader port).Yields talk r) :
    Frees port .readable true talk (.ofResult r) := by
  obtain ⟨answer, rest, rfl, freeing⟩ := Yields.call_inv (S := Link) _ h
  rcases answer with fault | ⟨⟩
  · obtain ⟨rfl, rfl⟩ := Yields.done_inv freeing
    exact .kept nofun
  · obtain ⟨result, _, rfl, ended⟩ := Yields.call_inv (S := Link) _ freeing
    obtain ⟨rfl, rfl⟩ := Yields.done_inv ended
    exact .asked (s := .readable) rfl _

theorem freeWriter_frees {r : Except PortFault Unit} (h : (Link.freeWriter port).Yields talk r) :
    Frees port .writable true talk (.ofResult r) := by
  obtain ⟨answer, rest, rfl, freeing⟩ := Yields.call_inv (S := Link) _ h
  have frees (h : (Program.perform (S := Link) (.releaseWriter port)).Yields rest r)
      (stops : StreamKind.writable.Stops answer) :
      Frees port .writable true (⟨.closeWriter port, answer⟩ :: rest) (.ofResult r) := by
    obtain ⟨result, _, rfl, ended⟩ := Yields.call_inv (S := Link) _ h
    obtain ⟨rfl, rfl⟩ := Yields.done_inv ended
    exact .asked (s := .writable) stops _
  rcases answer with fault | ⟨⟩
  · by_cases closing : fault = .writerClosing
    · subst closing
      exact frees freeing (.inr rfl)
    · -- every other fault ends the stage
      have kept : Yields (.done (.error fault) : Program Link (Except PortFault Unit)) rest r := by
        cases fault <;> first | exact freeing | exact absurd rfl closing
      obtain ⟨rfl, rfl⟩ := Yields.done_inv kept
      refine .kept ?_
      rintro (ok | same)
      · cases ok
      · exact closing (Except.error.inj same)
  · exact frees freeing (.inl rfl)

/-- A stage that frees a stream does so with calls of the handle alone. -/
theorem Frees.part {s : StreamKind} {locked : Bool} {outcome : Outcome}
    (h : Frees port s locked talk outcome) : Part context talk talk [] 0 := by
  cases h <;> cases s <;> exact ⟨rfl, rfl, rfl⟩

/-- **The stage that frees a stream.** It looks whether somebody holds the stream, and if so makes
the holder stop and takes the lock. -/
theorem freeStream_part (s : StreamKind) {free : Program Link (Except PortFault Unit)}
    (frees : ∀ talk r, free.Yields talk r → Frees port s true talk (.ofResult r))
    {fault : Option ReclaimFault}
    (h : (freeStream delays port context s free).Yields talk fault) :
    ∃ seen calls outcome, Frees port s (seen.isLocked s) calls outcome ∧
      fault = outcome.fault? (.lockRelease s) ∧
      Part context talk (Link.look port seen :: calls) fault.toList
        (outcome.settle delays.settle) := by
  obtain ⟨seen, staged, rfl, stage⟩ := Link.look_inv h
  by_cases locked : seen.isLocked s = true
  · rw [if_pos locked] at stage
    obtain ⟨_, rfl, tried⟩ := Link.log_inv stage
    obtain ⟨r, calls, after, rfl, own, told⟩ := Yields.bind_inv tried
    have made := frees calls r own
    refine ⟨seen, calls, .ofResult r, locked ▸ made, ?_⟩
    have around {rest : List (Exchange Link)} {faults : List ReclaimFault} {time : Nat}
        (later : Part context rest [] faults time) (message : String) :
        Part context (Link.look port seen :: ⟨.log .trace message, ()⟩ :: (calls ++ rest))
          (Link.look port seen :: calls) faults time := by
      have joined := made.part.append later
      rw [List.append_nil, List.nil_append, Nat.zero_add] at joined
      exact .look seen (.trace message joined)
    rcases r with fault | ⟨⟩
    · obtain ⟨_, rfl, ended⟩ := Link.log_inv told
      obtain ⟨rfl, rfl⟩ := Yields.done_inv ended
      exact ⟨rfl, around (.complain (.lockRelease s fault) .nil) _⟩
    · obtain ⟨_, rfl, settled⟩ := Link.log_inv told
      obtain ⟨_, rfl, ended⟩ := Link.sleep_inv settled
      obtain ⟨rfl, rfl⟩ := Yields.done_inv ended
      exact ⟨rfl, around (.trace _ (.sleep _ .nil)) _⟩
  · rw [if_neg locked] at stage
    obtain ⟨rfl, rfl⟩ := Yields.done_inv stage
    rw [Bool.not_eq_true] at locked
    exact ⟨seen, [], .idle, locked ▸ .unlocked, rfl, .look seen .nil⟩

/-- **The stage that closes the port.** It looks whether the port is open, and if so closes it. -/
theorem closePort_part {fault : Option ReclaimFault}
    (h : (closePort delays port context).Yields talk fault) :
    ∃ seen calls outcome, Closes port seen.isOpen calls outcome ∧
      fault = outcome.fault? .close ∧
      Part context talk (Link.look port seen :: calls) fault.toList
        (outcome.settle delays.closeSettle) := by
  obtain ⟨seen, staged, rfl, stage⟩ := Link.look_inv h
  by_cases isOpen : seen.isOpen = true
  · rw [if_pos isOpen] at stage
    obtain ⟨result, _, rfl, told⟩ := Yields.call_inv (S := Link) _ stage
    refine ⟨seen, [⟨.close port, result⟩], .ofResult result, isOpen ▸ .asked result, ?_⟩
    rcases result with fault | ⟨⟩
    · obtain ⟨_, rfl, ended⟩ := Link.log_inv told
      obtain ⟨rfl, rfl⟩ := Yields.done_inv ended
      exact ⟨rfl, .look seen (.close _ (.complain (.close fault) .nil))⟩
    · obtain ⟨_, rfl, settled⟩ := Link.log_inv told
      obtain ⟨_, rfl, ended⟩ := Link.sleep_inv settled
      obtain ⟨rfl, rfl⟩ := Yields.done_inv ended
      exact ⟨rfl, .look seen (.close _ (.trace _ (.sleep _ .nil)))⟩
  · rw [if_neg isOpen] at stage
    obtain ⟨rfl, rfl⟩ := Yields.done_inv stage
    rw [Bool.not_eq_true] at isOpen
    exact ⟨seen, [], .idle, isOpen ▸ .closed, rfl, .look seen .nil⟩

end

/-! ### The stages together -/

/-- What a handle shows of its streams in the course of a reclaim. -/
structure Looks where
  /-- At the beginning. -/
  first : Streams
  /-- For the record, before anything is done. -/
  before : Streams
  /-- When the reader is to be freed. -/
  reading : Streams
  /-- When the writer is to be freed. -/
  writing : Streams
  /-- For the record, after that. -/
  after : Streams
  /-- When the port is to be closed. -/
  closing : Streams
  /-- For the record, at the end. -/
  last : Streams

/-- What is asked of a handle that is open, in turn. -/
def Looks.around (seen : Looks) (port : Port) (reader writer closing : List (Exchange Link)) :
    List (Exchange Link) :=
  [Link.look port seen.first, Link.look port seen.before, Link.look port seen.reading] ++ reader ++
    [Link.look port seen.writing] ++ writer ++
    [Link.look port seen.after, Link.look port seen.closing] ++ closing ++
    [Link.look port seen.last]

/-- The faults of the stages that failed, in their order. -/
def stageFaults (reader writer closing : Outcome) : List ReclaimFault :=
  (reader.fault? (.lockRelease .readable)).toList ++
    (writer.fault? (.lockRelease .writable)).toList ++ (closing.fault? .close).toList

/-- The outcome is the first fault. -/
def firstFault : List ReclaimFault → Except ReclaimFault Unit
  | [] => .ok ()
  | fault :: _ => .error fault

section
variable {delays : Delays} {port : Port} {context : String} {talk : List (Exchange Link)}
  {result : Except ReclaimFault Unit}

theorem firstFault_or (reader writer closing : Option ReclaimFault) :
    firstFault (reader.toList ++ writer.toList ++ closing.toList) =
      match reader.or (writer.or closing) with
      | none => .ok ()
      | some fault => .error fault := by
  cases reader <;> cases writer <;> cases closing <;> rfl

/-- All goes well if and only if no stage failed. -/
theorem firstFault_ok_iff (reader writer closing : Outcome) :
    firstFault (stageFaults reader writer closing) = .ok () ↔
      reader.hasFailed = false ∧ writer.hasFailed = false ∧ closing.hasFailed = false := by
  cases reader <;> cases writer <;> cases closing <;>
    simp [firstFault, stageFaults, Outcome.fault?, Outcome.hasFailed]

/-- A reclaim leaves a handle alone that is not open, and takes the three stages, one after the
other, of one that is. -/
theorem reclaim_talk (h : (reclaim delays port context).Yields talk result) :
    (∃ seen, seen.isOpen = false ∧ talk = [Link.look port seen,
        ⟨.log .trace s!"{context}: port not open, skipping close", ()⟩] ∧ result = .ok ()) ∨
      ∃ (seen : Looks) (rc wc cc : List (Exchange Link)) (reader writer closing : Outcome),
        seen.first.isOpen = true ∧
        Frees port .readable (seen.reading.isLocked .readable) rc reader ∧
        Frees port .writable (seen.writing.isLocked .writable) wc writer ∧
        Closes port seen.closing.isOpen cc closing ∧
        result = firstFault (stageFaults reader writer closing) ∧
        Part context talk (seen.around port rc wc cc) (stageFaults reader writer closing)
          (reader.settle delays.settle + writer.settle delays.settle +
            closing.settle delays.closeSettle) := by
  obtain ⟨first, rest, rfl, shown⟩ := Link.look_inv h
  cases isOpen : first.isOpen with
  | false =>
    rw [isOpen] at shown
    obtain ⟨_, rfl, ended⟩ := Link.log_inv shown
    obtain ⟨rfl, rfl⟩ := Yields.done_inv ended
    exact .inl ⟨first, isOpen, rfl, rfl⟩
  | true =>
    rw [isOpen] at shown
    obtain ⟨_, rfl, h1⟩ := Link.log_inv shown
    obtain ⟨before, _, rfl, h2⟩ := Link.look_inv h1
    obtain ⟨_, rfl, h3⟩ := Link.log_inv h2
    obtain ⟨_, tr, _, rfl, stage1, h4⟩ := Yields.bind_inv h3
    obtain ⟨_, tw, _, rfl, stage2, h5⟩ := Yields.bind_inv h4
    obtain ⟨after, _, rfl, h6⟩ := Link.look_inv h5
    obtain ⟨_, rfl, h7⟩ := Link.log_inv h6
    obtain ⟨_, tc, _, rfl, stage3, h8⟩ := Yields.bind_inv h7
    obtain ⟨last, _, rfl, h9⟩ := Link.look_inv h8
    obtain ⟨_, ending, rfl, h10⟩ := Yields.call_inv (S := Link) _ h9
    obtain ⟨reading, rc, reader, frees1, rfl, part1⟩ :=
      freeStream_part .readable (fun _ _ => freeReader_frees) stage1
    obtain ⟨writing, wc, writer, frees2, rfl, part2⟩ :=
      freeStream_part .writable (fun _ _ => freeWriter_frees) stage2
    obtain ⟨closing, cc, closed, closes, rfl, part3⟩ := closePort_part stage3
    have ended : ending = [] ∧ result = firstFault (stageFaults reader writer closed) := by
      rw [stageFaults, firstFault_or]
      revert h10
      cases (reader.fault? (.lockRelease .readable)).or
        ((writer.fault? (.lockRelease .writable)).or (closed.fault? .close)) with
      | none => exact fun h10 => Yields.done_inv h10
      | some fault => exact fun h10 => Yields.done_inv h10
    obtain ⟨rfl, hr⟩ := ended
    refine .inr ⟨⟨first, before, reading, writing, after, closing, last⟩, rc, wc, cc, reader,
      writer, closed, isOpen, frees1, frees2, closes, hr, ?_⟩
    refine .of_eq (.look first (.trace _ (.look before (.trace _ (part1.append (part2.append
      (.look after (.trace _ (part3.append (.look last (.note _ .nil))))))))))) ?_ ?_ ?_
    · simp [Looks.around]
    · simp [stageFaults]
    · omega

end

/-! ### Handles that stay closed -/

/-- A handle with a state that says what its streams are: looking at them tells that, closing it
leaves it closed if that works, and what is closed stays so. -/
structure Shuttable {σ : Type} (handler : (op : LinkOp) → σ → op.Answer × σ) (port : Port)
    (shown : σ → Streams) : Prop where
  truthful : ∀ s, (handler (.streams port) s).1 = shown s
  closes : ∀ s, (handler (.close port) s).1 = .ok () →
    (shown (handler (.close port) s).2).isOpen = false
  stays : ∀ op s, (shown s).isOpen = false → (shown (handler op s).2).isOpen = false

namespace Shuttable

variable {σ : Type} {handler : (op : LinkOp) → σ → op.Answer × σ} {shown : σ → Streams}
  {delays : Delays} {port : Port} {context : String} {s : σ}

/-- A handle that is closed stays so, whatever program is run. -/
theorem stays_shut {α : Type} (h : Shuttable handler port shown) (p : Program Link α)
    (shut : (shown s).isOpen = false) : (shown (p.run handler s).2).isOpen = false := by
  induction p generalizing s with
  | done a => exact shut
  | call op next ih => exact ih _ (h.stays op s shut)

/-- The last stage leaves the handle closed, if it does not fail. -/
theorem closePort_shuts (h : Shuttable handler port shown)
    (well : ((closePort delays port context).run handler s).1 = none) :
    (shown ((closePort delays port context).run handler s).2).isOpen = false := by
  cases isOpen : (shown s).isOpen with
  | false => exact h.stays_shut _ isOpen
  | true =>
    unfold closePort at well ⊢
    have looked : (Link.streams port).run handler s = handler (.streams port) s := rfl
    have asked (s : σ) : (Program.perform (S := Link) (.close port)).run handler s =
      handler (.close port) s := rfl
    rw [bind_def, run_bind, looked, h.truthful, if_pos isOpen, bind_def, run_bind, asked]
      at well ⊢
    cases closed : (handler (.close port) (handler (.streams port) s).2).1 with
    | error fault =>
      rw [closed] at well
      cases well
    | ok => exact h.stays_shut _ (h.closes _ closed)

/-- What is done before does not matter to how a program leaves the handle. -/
theorem shuts_bind {α β : Type} {p : Program Link α} {k : α → Program Link β} {good : β}
    (rest : ∀ a s, ((k a).run handler s).1 = good → (shown ((k a).run handler s).2).isOpen = false)
    (s : σ) (well : ((p.bind k).run handler s).1 = good) :
    (shown ((p.bind k).run handler s).2).isOpen = false := by
  rw [run_bind] at well ⊢
  exact rest _ _ well

/-- **A reclaim that goes well leaves the handle closed.** -/
theorem reclaim_shuts (h : Shuttable handler port shown)
    (well : ((reclaim delays port context).run handler s).1 = .ok ()) :
    (shown ((reclaim delays port context).run handler s).2).isOpen = false := by
  cases isOpen : (shown s).isOpen with
  | false => exact h.stays_shut _ isOpen
  | true =>
    unfold reclaim at well ⊢
    have looked : (Link.streams port).run handler s = handler (.streams port) s := rfl
    rw [bind_def, run_bind, looked, h.truthful, if_neg (by simp [isOpen])] at well ⊢
    revert well
    refine shuts_bind (fun _ => shuts_bind fun before => shuts_bind fun _ =>
      shuts_bind fun reader => shuts_bind fun writer => shuts_bind fun after =>
        shuts_bind fun _ s well => ?_) _
    rw [bind_def, run_bind] at well ⊢
    refine h.stays_shut _ (h.closePort_shuts ?_)
    -- the outcome is no fault, so the last stage had none
    cases closing : ((closePort delays port context).run handler s).1 with
    | none => rfl
    | some fault =>
      rw [closing] at well
      cases reader <;> cases writer <;> cases well

/-- Once closed, it is left alone by every further reclaim. -/
theorem reclaim_again (h : Shuttable handler port shown) (delays : Delays) (context : String)
    (shut : (shown s).isOpen = false) :
    (reclaim delays port context).talk handler s = [Link.look port (shown s),
      ⟨.log .trace s!"{context}: port not open, skipping close", ()⟩] ∧
    ((reclaim delays port context).run handler s).1 = .ok () := by
  rcases reclaim_talk (yields_run handler (reclaim delays port context) s) with
    ⟨seen, -, same, well⟩ | ⟨seen, rc, wc, cc, _, _, _, isOpen, -, -, -, -, part⟩
  · have first : Link.look port seen = Link.look port (handler (.streams port) s).1 :=
      (List.cons.inj same).1.symm
    rw [h.truthful] at first
    exact ⟨Link.look_inj first ▸ same, well⟩
  · have first : Link.look port seen.first = Link.look port (handler (.streams port) s).1 :=
      (List.cons.inj part.handled).1.symm
    rw [h.truthful] at first
    rw [Link.look_inj first, shut] at isOpen
    cases isOpen

end Shuttable

/-- **What a reclaim asks of any handle, and what comes of it.** A handle that is not open is looked
at once, and nothing else is asked of it. Of one that is open it is asked, in turn: to make the
reader stop, if the readable stream is then locked, and if that works to give up the lock; to make
the writer finish, if the writable stream is then locked, and if that works or the writer is at it
already to give up the lock; to close, if it is then open. A stage that fails does not keep the next
ones from being taken. The outcome is the fault of the first stage that failed, each failure is told
once and in order, and the time slept is that for the locks that were given up and for the port if
it was closed. If the outcome is good, a handle whose closing closes it, and which nothing opens
again, is closed at the end, and stays as it is when it is reclaimed again. -/
theorem reclaim_stages {σ : Type} (handler : (op : LinkOp) → σ → op.Answer × σ) (s : σ)
    (delays : Delays) (port : Port) (context : String) :
    let p := reclaim delays port context
    let talk := p.talk handler s
    let result := (p.run handler s).1
    let final := (p.run handler s).2
    ((∃ seen, seen.isOpen = false ∧ Link.handled talk = [Link.look port seen] ∧
        Link.entries talk = [(.trace, s!"{context}: port not open, skipping close")] ∧
        Link.slept talk = 0 ∧ result = .ok ()) ∨
      ∃ (seen : Looks) (rc wc cc : List (Exchange Link)) (reader writer closing : Outcome),
        seen.first.isOpen = true ∧
        Link.handled talk = seen.around port rc wc cc ∧
        Frees port .readable seen.reading.readableLocked rc reader ∧
        Frees port .writable seen.writing.writableLocked wc writer ∧
        Closes port seen.closing.isOpen cc closing ∧
        (result = .ok () ↔
          reader.hasFailed = false ∧ writer.hasFailed = false ∧ closing.hasFailed = false) ∧
        result = firstFault (stageFaults reader writer closing) ∧
        Link.complaints talk = (stageFaults reader writer closing).map (·.complaint context) ∧
        Link.slept talk = reader.settle delays.settle + writer.settle delays.settle +
          closing.settle delays.closeSettle) ∧
    ∀ shown, Shuttable handler port shown → result = .ok () →
      (shown final).isOpen = false ∧
      ∀ (delays' : Delays) (context' : String),
        let again := reclaim delays' port context'
        Link.handled (again.talk handler final) = [Link.look port (shown final)] ∧
        (again.run handler final).1 = .ok () := by
  intro p talk result final
  refine ⟨?_, fun shown h well => ?_⟩
  · rcases reclaim_talk (yields_run handler p s) with ⟨seen, shut, same, well⟩ |
      ⟨seen, rc, wc, cc, reader, writer, closing, isOpen, reads, writes, closes, hr, part⟩
    · refine .inl ⟨seen, shut, ?_, ?_, ?_, well⟩ <;> rw [show talk = _ from same] <;> rfl
    · have outcome := firstFault_ok_iff reader writer closing
      rw [← hr] at outcome
      exact .inr ⟨seen, rc, wc, cc, reader, writer, closing, isOpen, part.handled, reads, writes,
        closes, outcome, hr, part.complaints, part.slept⟩
  · have shut := h.reclaim_shuts well
    refine ⟨shut, fun delays' context' => ?_⟩
    obtain ⟨same, again⟩ := h.reclaim_again delays' context' shut
    exact ⟨by rw [same]; rfl, again⟩

/-- A handle whose writer is always closing already, and that closes only when nobody holds it. -/
def overtaken : (op : LinkOp) → Streams → op.Answer × Streams
  | .streams _, seen => (seen, seen)
  | .cancelReader _, seen => (.ok (), seen)
  | .releaseReader _, seen => (.ok (), { seen with readable := seen.readable.map fun _ => false })
  | .closeWriter _, seen => (.error .writerClosing, seen)
  | .releaseWriter _, seen => (.ok (), { seen with writable := seen.writable.map fun _ => false })
  | .close _, seen =>
    if seen.readableLocked || seen.writableLocked then (.error (.locked .readable), seen)
    else (.ok (), .closed)
  | .sleep _, seen | .log _ _, seen | .note _, seen => ((), seen)

theorem overtaken_shuttable (port : Port) : Shuttable overtaken port id where
  truthful _ := rfl
  closes seen well := by
    simp only [overtaken] at well ⊢
    split at well
    · cases well
    · rw [if_neg ‹_›]
      rfl
  stays op seen shut := by
    have closed : seen.readable = none ∧ seen.writable = none := by
      simpa [Streams.isOpen] using shut
    cases op with
    | close | releaseReader | releaseWriter =>
      simp [overtaken, Streams.isOpen, Streams.readableLocked, Streams.writableLocked,
        Streams.closed, closed]
    | _ => exact shut

/-- A reader and a writer that is closing already hold a port: it is closed all the same, and then
nothing is left to do. -/
theorem overtaken_reclaimed :
    let port : Port := ⟨"/dev/ttyACM0", .bare "/dev/ttyACM0"⟩
    let held : Streams := ⟨some true, some true⟩
    let first := reclaim ⟨100, 150⟩ port "previous"
    let final := (first.run overtaken held).2
    Shuttable overtaken port id ∧ (first.run overtaken held).1 = .ok () ∧
    Link.slept (first.talk overtaken held) = 350 ∧ final.isOpen = false ∧
    Link.handled ((reclaim ⟨100, 150⟩ port "selected").talk overtaken final) =
      [Link.look port final] := by
  intro port held first final
  have well : (first.run overtaken held).1 = .ok () := rfl
  have slept : Link.slept (first.talk overtaken held) = 350 := by decide +kernel
  obtain ⟨-, rest⟩ := reclaim_stages overtaken held ⟨100, 150⟩ port "previous"
  obtain ⟨shut, again⟩ := rest id (overtaken_shuttable port) well
  exact ⟨overtaken_shuttable port, well, slept, shut, (again ⟨100, 150⟩ "selected").1⟩

end FlashStation

/-
# Calls of the station that are under way together

Any number of calls may be under way. One of them runs at a time, from one wait to the next;
while it waits, others may go on or begin, in any order. What the ports, the loader and the
fetcher answer is not fixed: any operation may answer anything, and the same question may be
answered differently each time. Only the record and the loaders made so far are kept here, so
reading answers with the record, and making a loader gives one that nobody had before. While a
loader writes, it may report on behalf of the flash that waits for it.

A call carries a generation once it told the observer that the station is connecting, or is
flashing: the one that the record had then.

Key definitions: `Errand`, `Floor`, `Event`, `Stretch`, `Call`, `Traffic`, `Traffic.Step`,
`Traffic.Run`, `Traffic.Reach`.
Key theorems: `Stretch.advance`, `Traffic.Run.begin`, `Traffic.Run.carryOn`.
-/
import FlashStation.Proofs.Program
import FlashStation.Station.Connect
import FlashStation.Station.Flash

namespace FlashStation

open Station

/-- A call of the station, as its caller makes it. -/
inductive Errand where
  /-- Connect, at this baud rate or the default one. -/
  | connect (preferred : Option UInt32)
  /-- Flash a source. -/
  | flash (source : Source)
  /-- Flash what an operator chose. -/
  | flashChoice (choice : Choice)
  /-- Disconnect. -/
  | disconnect
  deriving DecidableEq, Repr

/-- What a call gives back. -/
inductive Result where
  /-- A connect is over. -/
  | connected (result : Except ConnectFault DeviceInfo)
  /-- A flash of a source is over. -/
  | flashed (result : Except FlashFault FlashSummary)
  /-- A flash of a choice is over. -/
  | flashedChoice (result : Except Failure FlashSummary)
  /-- A disconnect is over. -/
  | disconnected

namespace Errand

/-- What a call does. -/
def program (config : Config) : Errand → Program Station Result
  | .connect preferred => (Station.connect config preferred).bind fun r => .done (.connected r)
  | .flash source => (Station.flash config source).bind fun r => .done (.flashed r)
  | .flashChoice choice =>
    (Station.flashChoice config choice).bind fun r => .done (.flashedChoice r)
  | .disconnect => (Station.disconnect config).bind fun _ => .done .disconnected

/-- Whether a call is a connect. -/
def isConnect : Errand → Bool
  | .connect _ => true
  | _ => false

/-- Whether a call is a flash, of a source or of a choice. -/
def isFlash : Errand → Bool
  | .flash _ | .flashChoice _ => true
  | _ => false

theorem isFlash_not_connect {errand : Errand} (h : errand.isFlash = true) :
    errand.isConnect = false := by
  cases errand <;> first | rfl | cases h

end Errand

/-- What all calls work on: the record, and the loaders made so far. -/
structure Floor where
  /-- The record. -/
  desk : Desk
  /-- The loaders, in the order of making; a loader's ticket is its place. -/
  loaders : List Loader

/-- The record of a new station, and no loader. -/
def Floor.new : Floor := ⟨.new, []⟩

/-- The answer to an operation that does not wait, and the floor afterwards. The record and the
making of loaders are answered from the floor, a loader gives the port that it was made for, and
all else is answered as `suggested`. -/
def StationOp.settle : (op : StationOp) → op.Answer → Floor → op.Answer × Floor
  | .read, _, f => (f.desk, f)
  | .current generation, _, f => (f.desk.generation == generation, f)
  | .write desk, _, f => ((), { f with desk })
  | .attach port baud romBaud, _, f =>
    (⟨f.loaders.length, port, baud, romBaud⟩,
      { f with loaders := f.loaders ++ [⟨f.loaders.length, port, baud, romBaud⟩] })
  | .intoPort loader, _, f => (loader.port, f)
  | _, suggested, f => (suggested, f)

/-- Whether an operation is performed while the call has the record to itself. -/
def StationOp.onRecord : StationOp → Bool
  | .read | .current _ | .write _ | .changed _ _ => true
  | _ => false

/-- Whether an operation tells the observer that the station has accepted a call. -/
def StationOp.accepts : StationOp → Bool
  | .changed _ .connecting | .changed _ .flashing => true
  | _ => false

/-- Something that happens in a call, with the floor at that moment. -/
inductive Event where
  /-- An operation that does not wait is performed. -/
  | does (op : StationOp) (answer : op.Answer) (floor : Floor)
  /-- An operation that waits begins. -/
  | starts (op : StationOp) (floor : Floor)
  /-- An operation that waited is answered. -/
  | wakes (op : StationOp) (answer : op.Answer) (floor : Floor)

namespace Event

/-- The floor at that moment. -/
def floor : Event → Floor
  | .does _ _ f | .starts _ f | .wakes _ _ f => f

/-- The operation that an event is about. -/
def op : Event → StationOp
  | .does op _ _ | .starts op _ | .wakes op _ _ => op

/-- The operation that the station performs, or begins to perform. -/
def performed : Event → Option StationOp
  | .does op _ _ | .starts op _ => some op
  | .wakes _ _ _ => none

/-- Whether the record is free at an event. -/
def free : Event → Bool
  | .does op _ _ | .starts op _ => !op.onRecord
  | .wakes _ _ _ => true

/-- The generation that a call carries after an event. -/
def tag (old : Option Nat) : Event → Option Nat
  | .does (.changed _ .connecting) _ f | .does (.changed _ .flashing) _ f => some f.desk.generation
  | _ => old

/-- The generation that a call carries after some events. -/
def tags (events : List Event) (old : Option Nat) : Option Nat :=
  events.foldl tag old

theorem free_performed {e : Event} {op : StationOp} (h : e.performed = some op) :
    e.free = !op.onRecord := by
  cases e <;> cases h <;> rfl

theorem tags_append {es es' : List Event} (old : Option Nat) :
    tags (es ++ es') old = tags es' (tags es old) :=
  List.foldl_append

theorem tag_eq {e : Event} (h : ∀ op, e.performed = some op → op.accepts = false)
    (old : Option Nat) : e.tag old = old := by
  cases e with
  | does op answer f =>
    cases op with
    | changed before after => cases after <;> first | rfl | cases h _ rfl
    | _ => rfl
  | starts | wakes => rfl

theorem tags_eq {es : List Event} (old : Option Nat)
    (h : ∀ e ∈ es, ∀ op, e.performed = some op → op.accepts = false) : tags es old = old := by
  induction es with
  | nil => rfl
  | cons e es ih =>
    show tags es (e.tag old) = old
    rw [tag_eq (h e (.head _)), ih fun e he => h e (.tail _ he)]

end Event

/-- What a program does from a moment at which it runs to its next wait or its end: what happens,
the floor then, and the program that is left. -/
inductive Stretch {α : Type} : Program Station α → Floor → List Event → Floor →
    Program Station α → Prop where
  | ends (a : α) (f : Floor) : Stretch (.done a) f [] f (.done a)
  | waits {op : StationOp} {next : op.Answer → Program Station α} {f : Floor}
      (h : op.suspends = true) : Stretch (.call op next) f [.starts op f] f (.call op next)
  | does {op : StationOp} {next : op.Answer → Program Station α} {f f' : Floor} {es : List Event}
      {q : Program Station α} (h : op.suspends = false) (suggested : op.Answer)
      (rest : Stretch (next (op.settle suggested f).1) (op.settle suggested f).2 es f' q) :
      Stretch (.call op next) f (.does op (op.settle suggested f).1 f :: es) f' q

/-- A loader is made. -/
def Event.Attaches (e : Event) (l : Loader) : Prop :=
  ∃ f, e = .does (.attach l.port l.baud l.romBaud) l f

/-- Nobody is answered within a stretch. -/
theorem Stretch.performed {α : Type} {p q : Program Station α} {f f' : Floor} {es : List Event}
    (h : Stretch p f es f' q) : ∀ e ∈ es, ∃ op, e.performed = some op := by
  induction h with
  | ends a f => exact List.forall_mem_nil _
  | @waits op _ f hs => exact List.forall_mem_singleton.mpr ⟨op, rfl⟩
  | @does op _ _ _ _ _ hs suggested _ ih => exact List.forall_mem_cons.mpr ⟨⟨op, rfl⟩, ih⟩

/-- A stretch that does not end the program ends with the beginning of a wait. -/
theorem Stretch.starts {α : Type} {p q : Program Station α} {f f' : Floor} {es : List Event}
    (h : Stretch p f es f' q) {op : StationOp} {next : op.Answer → Program Station α}
    (hq : q = .call op next) : op.suspends = true ∧ .starts op f' ∈ es := by
  induction h with
  | ends a f => cases hq
  | waits hs =>
    cases hq
    exact ⟨hs, .head _⟩
  | does hs suggested _ ih => exact ⟨(ih hq).1, .tail _ (ih hq).2⟩

theorem StationOp.settle_loaders (op : StationOp) (suggested : op.Answer) (f : Floor) :
    f.loaders ⊆ (op.settle suggested f).2.loaders ∧
      ∀ l ∈ (op.settle suggested f).2.loaders,
        l ∈ f.loaders ∨ (Event.does op (op.settle suggested f).1 f).Attaches l := by
  cases op with
  | attach port baud romBaud =>
    refine ⟨fun l hl => List.mem_append_left _ hl, fun l hl => ?_⟩
    rcases List.mem_append.mp hl with hl | hl
    · exact .inl hl
    · rw [List.mem_singleton] at hl
      subst hl
      exact .inr ⟨f, rfl⟩
  | _ => exact ⟨fun _ h => h, fun _ h => .inl h⟩

/-- No loader goes away, and a new one was made in the stretch. -/
theorem Stretch.loaders {α : Type} {p q : Program Station α} {f f' : Floor} {es : List Event}
    (h : Stretch p f es f' q) :
    f.loaders ⊆ f'.loaders ∧ ∀ l ∈ f'.loaders, l ∈ f.loaders ∨ ∃ e ∈ es, e.Attaches l := by
  induction h with
  | ends a f => exact ⟨fun _ h => h, fun _ h => .inl h⟩
  | waits hs => exact ⟨fun _ h => h, fun _ h => .inl h⟩
  | @does op next f f' es q hs suggested _ ih =>
    obtain ⟨grow, made⟩ := op.settle_loaders suggested f
    refine ⟨fun l hl => ih.1 (grow hl), fun l hl => ?_⟩
    rcases ih.2 l hl with h | ⟨e, he, h⟩
    · exact (made l h).imp_right fun h => ⟨_, .head _, h⟩
    · exact .inr ⟨e, .tail _ he, h⟩

/-- A call that was made: what for, on which floor, the generation it carries, and what it has
still to do. -/
structure Call where
  /-- What the caller asked for. -/
  errand : Errand
  /-- The floor when the call was made. -/
  start : Floor
  /-- The generation it carries. -/
  tag : Option Nat
  /-- What it has still to do. -/
  rest : Program Station Result

/-- Whether a call is still under way. -/
def Call.pending (c : Call) : Bool :=
  match c.rest with
  | .done _ => false
  | .call _ _ => true

/-- The station, and all calls that were made, in this order. -/
structure Traffic where
  /-- The floor. -/
  floor : Floor
  /-- The calls; one that is over stays in the list. -/
  calls : List Call

namespace Traffic

/-- A new station, and no call. -/
def new : Traffic := ⟨.new, []⟩

/-- One call runs to its next wait or its end: which one, what happens, and how things are then. -/
inductive Step (config : Config) : Traffic → Nat → List Event → Traffic → Prop where
  /-- A call is made. -/
  | begins {t : Traffic} (errand : Errand) {es : List Event} {f : Floor}
      {q : Program Station Result} (h : Stretch (errand.program config) t.floor es f q) :
      Step config t t.calls.length es ⟨f, t.calls ++ [⟨errand, t.floor, Event.tags es none, q⟩]⟩
  /-- A call that waits is answered. -/
  | resumes {t : Traffic} {i : Nat} {c : Call} {op : StationOp}
      {next : op.Answer → Program Station Result} (hc : t.calls[i]? = some c)
      (hw : c.rest = .call op next) (answer : op.Answer) {es : List Event} {f : Floor}
      {q : Program Station Result} (h : Stretch (next answer) t.floor es f q) :
      Step config t i (.wakes op answer t.floor :: es)
        ⟨f, t.calls.set i { c with tag := Event.tags es c.tag, rest := q }⟩
  /-- A loader that writes reports, and the call goes on waiting. -/
  | reports {t : Traffic} {i : Nat} {c : Call} {loader : Loader} {payload : Payload}
      {compress : Bool} {generation : Nat}
      {next : Except ProtocolFault Unit → Program Station Result}
      (hc : t.calls[i]? = some c)
      (hw : c.rest = .call (.writeFlash loader payload compress generation) next)
      (written total : UInt64) {es : List Event} {f : Floor}
      (h : Stretch (reportProgress generation written total) t.floor es f (.done ())) :
      Step config t i es ⟨f, t.calls⟩

/-- A loader that there is after a step was there before, or was made in it. -/
theorem Step.made {config : Config} {t t' : Traffic} {i : Nat} {es : List Event}
    (h : Step config t i es t') :
    ∀ l ∈ t'.floor.loaders, l ∈ t.floor.loaders ∨ ∃ e ∈ es, e.Attaches l := by
  intro l hl
  cases h with
  | begins _ h => exact h.loaders.2 l hl
  | resumes _ _ _ h =>
    exact (h.loaders.2 l hl).imp_right fun ⟨e, he, made⟩ => ⟨e, .tail _ he, made⟩
  | reports _ _ _ _ h => exact h.loaders.2 l hl

/-- A step that was taken: by which call, what happened, and the floor before and after. -/
structure Deed where
  /-- The call's place. -/
  caller : Nat
  /-- What happened. -/
  events : List Event
  /-- The floor before. -/
  before : Floor
  /-- The floor after. -/
  after : Floor

/-- Any number of steps, in any order. -/
inductive Run (config : Config) (t : Traffic) : List Deed → Traffic → Prop where
  | here : Run config t [] t
  | step {log : List Deed} {t' t'' : Traffic} {i : Nat} {es : List Event}
      (run : Run config t log t') (h : Step config t' i es t'') :
      Run config t (log ++ [⟨i, es, t'.floor, t''.floor⟩]) t''

theorem Run.trans {config : Config} {t t' t'' : Traffic} {log log' : List Deed}
    (run : Run config t log t') (run' : Run config t' log' t'') :
    Run config t (log ++ log') t'' := by
  induction run' with
  | here => rw [List.append_nil]; exact run
  | step _ h ih => rw [← List.append_assoc]; exact ih.step h

/-- What a new station can come to. -/
def Reach (config : Config) (t : Traffic) : Prop :=
  ∃ log, Run config .new log t

variable {config : Config}

theorem Reach.new : Reach config .new := ⟨[], .here⟩

theorem Reach.step {t t' : Traffic} {i : Nat} {es : List Event} (h : Reach config t)
    (hs : Step config t i es t') : Reach config t' := by
  obtain ⟨log, run⟩ := h
  exact ⟨_, run.step hs⟩

theorem Run.reach {t t' : Traffic} {log : List Deed} (h : Reach config t)
    (run : Run config t log t') : Reach config t' := by
  induction run with
  | here => exact h
  | step _ hs ih => exact ih.step hs

/-- A property that a new station has and that each step from a reachable state keeps holds of
all reachable states. -/
theorem Reach.induction {P : Traffic → Prop} (init : P .new)
    (step : ∀ t i es t', Reach config t → P t → Step config t i es t' → P t') {t : Traffic}
    (h : Reach config t) : P t := by
  obtain ⟨log, run⟩ := h
  induction run with
  | here => exact init
  | step run hs ih => exact step _ _ _ _ ⟨_, run⟩ ih hs

end Traffic

/-! ### One way to go on

With a fixed answer to each operation, the next stretch of a program can be computed. -/

/-- The next stretch of a program, with the suggested answer to each operation. -/
def Program.advance {α : Type} (answer : (op : StationOp) → op.Answer) :
    Program Station α → Floor → List Event × Floor × Program Station α
  | .done a, f => ([], f, .done a)
  | .call op next, f =>
    if op.suspends then ([.starts op f], f, .call op next)
    else
      let settled := op.settle (answer op) f
      let r := (next settled.1).advance answer settled.2
      (.does op settled.1 f :: r.1, r.2)

theorem Stretch.advance {α : Type} (answer : (op : StationOp) → op.Answer)
    (p : Program Station α) (f : Floor) :
    Stretch p f (p.advance answer f).1 (p.advance answer f).2.1 (p.advance answer f).2.2 := by
  induction p generalizing f with
  | done a => exact .ends a f
  | call op next ih =>
    unfold Program.advance
    cases h : op.suspends with
    | true => exact .waits h
    | false => exact .does h (answer op) (ih _ _)

/-- Everything works: there is one port whose streams are these, no port was granted before, and
no bytes are fetched. -/
def obliging (port : Port) (streams : Streams) : (op : StationOp) → op.Answer
  | .link (.streams _) => streams
  | .link (.cancelReader _) | .link (.releaseReader _) | .link (.closeWriter _)
  | .link (.releaseWriter _) | .link (.close _) => .ok ()
  | .link (.sleep _) | .link (.log _ _) | .link (.note _) => ()
  | .supply (.locate path) => path
  | .supply (.fetch _) | .supply (.readLocal _) => .ok []
  | .supply (.log _ _) | .supply (.note _) => ()
  | .read => .new
  | .current _ | .supported | .hasHardReset _ => true
  | .write _ | .changed _ _ | .progress _ => ()
  | .knownPorts => .ok []
  | .requestPort _ => .ok port
  | .attach port baud romBaud => ⟨0, port, baud, romBaud⟩
  | .intoPort loader => loader.port
  | .handshake _ | .runStub _ | .writeFlash _ _ _ _ | .hardReset _ | .softReset _ => .ok ()
  | .chipName _ => none
  | .flashId _ => .ok 0
  | .flashSize _ => .ok 0

namespace Traffic

/-- A call is made, and goes on as the answers say. -/
def begin (config : Config) (answer : (op : StationOp) → op.Answer) (errand : Errand)
    (t : Traffic) : Traffic :=
  let r := (errand.program config).advance answer t.floor
  ⟨r.2.1, t.calls ++ [⟨errand, t.floor, Event.tags r.1 none, r.2.2⟩]⟩

/-- A call that waits is answered, and goes on as the answers say. -/
def resume (answer : (op : StationOp) → op.Answer) (i : Nat) (t : Traffic) : Traffic :=
  match t.calls[i]? with
  | some ⟨errand, start, tag, .call op next⟩ =>
    let r := (next (answer op)).advance answer t.floor
    ⟨r.2.1, t.calls.set i ⟨errand, start, Event.tags r.1 tag, r.2.2⟩⟩
  | _ => t

/-- What happens when a call is answered and goes on as the answers say. -/
def events (answer : (op : StationOp) → op.Answer) (i : Nat) (t : Traffic) : List Event :=
  match t.calls[i]? with
  | some ⟨_, _, _, .call op next⟩ =>
    .wakes op (answer op) t.floor :: ((next (answer op)).advance answer t.floor).1
  | _ => []

/-- A call goes on through a number of waits. -/
def carryOn (answer : (op : StationOp) → op.Answer) (i : Nat) : Nat → Traffic → Traffic
  | 0, t => t
  | n + 1, t => carryOn answer i n (t.resume answer i)

variable {config : Config} {t t' : Traffic} {log : List Deed}

theorem Run.begin (run : Run config t log t') (answer : (op : StationOp) → op.Answer)
    (errand : Errand) : ∃ log, Run config t log (t'.begin config answer errand) :=
  ⟨_, run.step (.begins errand (.advance answer _ _))⟩

theorem Step.resume (answer : (op : StationOp) → op.Answer) {i : Nat}
    (h : t.calls[i]?.map Call.pending = some true) :
    Step config t i (t.events answer i) (t.resume answer i) := by
  unfold Traffic.resume Traffic.events
  split
  · rename_i errand start tag op next hc
    exact .resumes hc rfl (answer op) (.advance answer _ _)
  · rename_i ended
    obtain ⟨⟨errand, start, tag, rest⟩, hc, hp⟩ := Option.map_eq_some_iff.mp h
    cases rest with
    | done r => cases hp
    | call op next => exact absurd hc (ended errand start tag op next)

theorem Run.resume (run : Run config t log t') (answer : (op : StationOp) → op.Answer) (i : Nat) :
    ∃ log, Run config t log (t'.resume answer i) := by
  unfold Traffic.resume
  split
  · rename_i errand start tag op next hc
    exact ⟨_, run.step (.resumes hc rfl (answer op) (.advance answer _ _))⟩
  · exact ⟨_, run⟩

theorem Run.carryOn (run : Run config t log t') (answer : (op : StationOp) → op.Answer)
    (i n : Nat) : ∃ log, Run config t log (t'.carryOn answer i n) := by
  induction n generalizing t' log with
  | zero => exact ⟨_, run⟩
  | succ n ih =>
    obtain ⟨_, run⟩ := run.resume answer i
    exact ih run

theorem Reach.begin (h : Reach config t) (answer : (op : StationOp) → op.Answer) (errand : Errand) :
    Reach config (t.begin config answer errand) :=
  h.elim fun _ run => run.begin answer errand

theorem Reach.carryOn (h : Reach config t) (answer : (op : StationOp) → op.Answer) (i n : Nat) :
    Reach config (t.carryOn answer i n) :=
  h.elim fun _ run => run.carryOn answer i n

/-- A station whose first call was a connect that succeeded. -/
def joined : Traffic :=
  (Traffic.new.begin .default (obliging default .closed) (.connect none)).carryOn
    (obliging default .closed) 0 7

theorem Reach.joined : Reach .default .joined :=
  (Reach.new.begin _ _).carryOn _ _ _

end Traffic

end FlashStation
